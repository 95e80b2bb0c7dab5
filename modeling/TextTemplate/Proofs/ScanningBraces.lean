import TextTemplate.Proofs.EscapeModes
import TextTemplate.Proofs.Spans

/-!
# What the scan that looks ahead turns away

A reader makes sense without the scan that looks ahead. What the scan adds is one way to fail: it is
asked once for every placeholder, in the order in which the placeholders are opened, and the first
one that it finds no closing brace for is called unclosed. So a reader with a scan gives what the
reader without one gives, cut short at the first such placeholder, and `parseWith_of_blind` says so
for every scan.

Where a doubled brace is a literal one, the scan counts it as two. A placeholder whose format has
more literal braces that open than literal braces that close may thus be called unclosed although it
is closed.
-/

namespace TextTemplate

/-! ## The placeholders of a template -/

mutual

/-- The placeholders of a template, also those inside of formats, in the order in which they are
opened. -/
def Template.opened : List Node → List Placeholder
  | [] => []
  | .literal _ :: ns => Template.opened ns
  | .placeholder p :: ns => Placeholder.opened p ++ Template.opened ns

/-- A placeholder and those inside of its format. -/
def Placeholder.opened : Placeholder → List Placeholder
  | ⟨selectors, alignment, format, raw, span⟩ =>
    ⟨selectors, alignment, format, raw, span⟩ :: Format.opened? format

/-- The placeholders inside of a format, if there is one. -/
def Format.opened? : Option Format → List Placeholder
  | none => []
  | some ⟨template, _, _⟩ => Template.opened template

end

theorem Template.opened_consChar (c : Char) (span : Span) (t : Template) :
    Template.opened (Template.consChar c span t) = Template.opened t := by
  match t with
  | [] => rfl
  | .literal _ :: _ => rfl
  | .placeholder _ :: _ => rfl

/-- The text behind the opening brace of a placeholder. -/
def Placeholder.behind (source : List Char) (p : Placeholder) : List Char :=
  ((cutAt? (p.span.start + 1) source).map Prod.snd).getD []

namespace Parser

variable {mode : EscapeMode} {closes : List Char → Bool} {source : List Char}

theorem behind_placeholderAt {k next : Cursor} {rest : List Char} (hk : k.Within source)
    (hrest : k.rest = '{' :: rest) (selectors : List Selector) (width : Option Int32)
    (format : Option Format) :
    (placeholderAt k next selectors width format).behind source = rest := by
  obtain ⟨before, hsource, hoffset⟩ := (Cursor.Passes.mark hrest rfl).within hk
  have hcut : cutAt? (k.offset + 1) source = some (before, rest) :=
    cutAt?_eq_some_iff.mpr ⟨hsource, hoffset⟩
  show ((cutAt? (k.offset + 1) source).map Prod.snd).getD [] = rest
  rw [hcut]
  rfl

/-! ## Cut short by a scan -/

/-- The outcome of reading placeholders with a scan, given the outcome without it: an error at the
first of them that the scan finds no closing brace for. -/
def scanned {α : Type} (closes : List Char → Bool) (source : List Char) (ps : List Placeholder)
    (r : Except Halt α) : Except Halt α :=
  match ps.find? fun p ↦ !closes (p.behind source) with
  | none => r
  | some p => unclosed p.span.start

section

variable {α β : Type} {ps qs : List Placeholder} {p : Placeholder} {r : Except Halt α}

theorem ok_bind (a : α) (f : α → Except Halt β) : Except.ok a >>= f = f a := rfl

theorem scanned_cons_of_closes (h : closes (p.behind source) = true) :
    scanned closes source (p :: ps) r = scanned closes source ps r := by
  simp [scanned, h]

theorem scanned_cons_of_not_closes (h : closes (p.behind source) = false) :
    scanned closes source (p :: ps) r = unclosed p.span.start := by
  simp [scanned, h]

theorem scanned_append :
    scanned closes source (ps ++ qs) r = scanned closes source ps (scanned closes source qs r) := by
  induction ps with
  | nil => rfl
  | cons p ps ih =>
    by_cases hp : closes (p.behind source) = true
    · rw [List.cons_append, scanned_cons_of_closes hp, scanned_cons_of_closes hp, ih]
    · rw [Bool.not_eq_true] at hp
      rw [List.cons_append, scanned_cons_of_not_closes hp, scanned_cons_of_not_closes hp]

/-- What follows is read only if nothing was called unclosed. -/
theorem scanned_bind (f : α → Except Halt β) :
    scanned closes source ps r >>= f = scanned closes source ps (r >>= f) := by
  unfold scanned
  split <;> rfl

end

/-! ## Readers with a scan and without -/

theorem format_scanned {specifier specifier' : Cursor → Except Halt (List Piece × Cursor)}
    {k next : Cursor} {f : Option Format} (hk : k.Within source)
    (hspecifier : ∀ k' qs stop, k'.Within source → specifier k' = .ok (qs, stop) →
      specifier' k' = scanned closes source (Template.opened (Piece.gather qs)) (.ok (qs, stop)))
    (h : format specifier k = .ok (f, next)) :
    format specifier' k = scanned closes source (Format.opened? f) (.ok (f, next)) := by
  unfold format at h ⊢
  split at h
  · rename_i rest hrest
    obtain ⟨⟨qs, stop⟩, hqs, h⟩ := ok_of_bind h
    cases h
    have hbody := (Cursor.Passes.mark hrest rfl).within hk
    simp only [hspecifier _ qs next hbody hqs]
    exact scanned_bind _
  · cases h
    rfl

/-- What a placeholder holds is scanned once it is opened. -/
theorem placeholder_scanned {bound : Nat}
    {specifier specifier' : Cursor → Except Halt (List Piece × Cursor)} {k next : Cursor}
    {rest : List Char} {p : Placeholder} (hk : k.Within source) (hrest : k.rest = '{' :: rest)
    (hspecifier : ∀ k' qs stop, k'.Within source → specifier k' = .ok (qs, stop) →
      specifier' k' = scanned closes source (Template.opened (Piece.gather qs)) (.ok (qs, stop)))
    (h : placeholder bound specifier k rest = .ok (p, next)) :
    placeholder bound specifier' k rest =
      scanned closes source (Format.opened? p.format) (.ok (p, next)) := by
  unfold placeholder at h ⊢
  obtain ⟨⟨selectors, head⟩, hpath, h⟩ := ok_of_bind h
  obtain ⟨⟨width, mid⟩, hwidth, h⟩ := ok_of_bind h
  obtain ⟨⟨f, stop⟩, hformat, h⟩ := ok_of_bind h
  have hhead : head.Within source :=
    (readsPath_of_path hpath).passes.within ((Cursor.Passes.mark hrest rfl).within hk)
  obtain ⟨_, _, hpass⟩ := (alignment_eq_ok_iff.mp hwidth).passes
  have hscanned := format_scanned (hpass.within hhead) hspecifier hformat
  have hformat : f = p.format := by
    simp only at h
    split at h
    · cases h
      rfl
    · exact absurd h fail_ne_ok
    · exact absurd h fail_ne_ok
  simp only [hpath, hwidth, hscanned, ok_bind, scanned_bind] at h ⊢
  rw [h, hformat]

/-- A placeholder that was read is opened where it stands in the source. -/
structure OpenedAt (source : List Char) (k : Cursor) (rest : List Char) (p : Placeholder) :
    Prop where
  start : p.span.start = k.offset
  behind : p.behind source = rest
  opened : Placeholder.opened p = p :: Format.opened? p.format

theorem openedAt_of_placeholder {bound bound' : Nat} {k next : Cursor} {rest : List Char}
    {p : Placeholder} (hk : k.Within source) (hfront : front mode k.rest = .opening rest)
    (h : placeholder bound (pieces mode (fun _ ↦ true) bound' .format) k rest = .ok (p, next)) :
    OpenedAt source k rest p := by
  have hrest := (front_eq_opening_iff.mp hfront).1
  obtain ⟨_, _, _, _, ⟨_, _, _, rfl⟩ | ⟨_, _, _, _, _, _, _, _, rfl⟩⟩ :=
    @placeholder_cases mode (fun _ ↦ true) _ _ _ _ _ _ hfront rfl h
  · exact ⟨rfl, behind_placeholderAt hk hrest _ _ _, rfl⟩
  · exact ⟨rfl, behind_placeholderAt hk hrest _ _ _, rfl⟩

/-- **Reading with a scan.** Where the reader without a scan reads pieces, the one with a scan reads
the same pieces, cut short at the first placeholder that the scan finds no closing brace for. -/
theorem pieces_scanned (closes : List Char → Bool) {bound : Nat} {scope : Scope} {k next : Cursor}
    {ps : List Piece} (hk : k.Within source)
    (h : pieces mode (fun _ ↦ true) bound scope k = .ok (ps, next)) :
    pieces mode closes bound scope k =
      scanned closes source (Template.opened (Piece.gather ps)) (.ok (ps, next)) := by
  -- Specifiers are read under the same smaller bound as what follows, so both are covered by `ih`.
  induction bound generalizing scope k ps next with
  | zero => cases h
  | succ bound ih =>
    unfold pieces at h ⊢
    split at h
    · cases h
      rfl
    · rename_i c width rest hfront
      obtain ⟨⟨ps', last⟩, hps, h⟩ := ok_of_bind h
      cases h
      obtain ⟨unit, _, hrest, rfl⟩ := front_eq_char_iff.mp hfront
      have hnext : Cursor.Within source ⟨k.offset + byteWidth unit, rest⟩ :=
        Cursor.Passes.within ⟨hrest, rfl⟩ hk
      simp only [ih hnext hps, scanned_bind]
      rw [Piece.gather_char, Template.opened_consChar]
      rfl
    · rename_i rest hfront
      rw [if_pos rfl] at h
      obtain ⟨⟨p, mid⟩, hp, h⟩ := ok_of_bind h
      obtain ⟨⟨ps', last⟩, hps, h⟩ := ok_of_bind h
      cases h
      have hrest := (front_eq_opening_iff.mp hfront).1
      obtain ⟨_, hpass⟩ := placeholder_passes hfront rfl hp
      have hat := openedAt_of_placeholder hk hfront hp
      have hscanned := placeholder_scanned hk hrest (fun _ _ _ hk' hqs ↦ ih hk' hqs) hp
      rw [Piece.gather_placeholder, Template.opened, hat.opened, List.cons_append]
      by_cases hcloses : closes rest = true
      · rw [if_pos hcloses, scanned_cons_of_closes (hat.behind ▸ hcloses), scanned_append]
        simp only [hscanned, scanned_bind, ok_bind, ih (hpass.within hk) hps]
        rfl
      · rw [if_neg hcloses, scanned_cons_of_not_closes (hat.behind ▸ Bool.not_eq_true _ ▸ hcloses),
          hat.start]
    · split at h
      · exact absurd h fail_ne_ok
      · cases h
        rfl
    · cases h

/-- A derivation does without the scan. -/
theorem Reads.blind {scope : Scope} {k next : Cursor} {ps : List Piece}
    (h : Reads mode closes scope k ps next) : Reads mode (fun _ ↦ true) scope k ps next := by
  have hblind : ∀ {k mid : Cursor} {selectors : List Selector} {width : Option Int32},
      ReadsHead mode closes k selectors width mid →
        ReadsHead mode (fun _ ↦ true) k selectors width mid := by
    rintro _ _ _ _ ⟨hfront, _, hpath, hwidth⟩
    exact .mk hfront rfl hpath hwidth
  induction h with
  | finish hk => exact .finish hk
  | close hk => exact .close hk
  | char hunit hpass _ ih => exact .char hunit hpass ih
  | bare hhead hclose _ ih => exact .bare (hblind hhead) hclose ih
  | formatted hhead hcolon _ hclose _ ihq ih => exact .formatted (hblind hhead) hcolon ihq hclose ih

variable {source : String} {t : Template}

theorem parseWith_blind (h : parseWith mode closes source = .ok t) :
    parseWith mode (fun _ ↦ true) source = .ok t := by
  obtain ⟨ps, next, hps, hgather⟩ := parseWith_eq_ok_iff.mp h
  have hblind := pieces_of_reads (reads_of_pieces hps).blind (Nat.lt_succ_self _)
  exact parseWith_eq_ok_iff.mpr ⟨ps, next, hblind, hgather⟩

/-- What a scan makes of a text that the reader without it reads as a template. -/
theorem parseWith_of_blind (closes : List Char → Bool)
    (h : parseWith mode (fun _ ↦ true) source = .ok t) :
    parseWith mode closes source =
      match (Template.opened t).find? fun p ↦ !closes (p.behind source.toList) with
      | none => .ok t
      | some p => .error ⟨.unclosedPlaceholder, ⟨p.span.start, p.span.start + 1⟩⟩ := by
  obtain ⟨ps, next, hps, rfl⟩ := parseWith_eq_ok_iff.mp h
  have hscanned := pieces_scanned closes (Cursor.within_ofString source) hps
  rw [scanned] at hscanned
  split at hscanned
  · exact parseWith_eq_ok_iff.mpr ⟨ps, next, hscanned, rfl⟩
  · exact parseWith_eq_error_iff.mpr hscanned

/-! ## Counting braces -/

/-- Some front of a text in which more braces close than open, when so many are open already. -/
def ClosesIn (depth : Nat) (cs : List Char) : Prop :=
  ∃ front, front <+: cs ∧ front.count '{' + depth < front.count '}'

theorem not_closesIn_nil {depth : Nat} : ¬ClosesIn depth [] := by
  rintro ⟨front, hfront, hlt⟩
  rw [List.prefix_nil.mp hfront] at hlt
  exact Nat.not_lt_zero _ hlt

/-- What closes behind a character closes within the text that begins with it. -/
theorem closesIn_cons_iff {c : Char} {depth : Nat} {cs : List Char} :
    ClosesIn depth (c :: cs) ↔
      ∃ front, front <+: cs ∧ (c :: front).count '{' + depth < (c :: front).count '}' := by
  constructor
  · rintro ⟨front, hfront, hlt⟩
    rcases List.prefix_cons_iff.mp hfront with rfl | ⟨tail, rfl, htail⟩
    · exact absurd hlt (Nat.not_lt_zero _)
    · exact ⟨tail, htail, hlt⟩
  · rintro ⟨front, hfront, hlt⟩
    exact ⟨c :: front, List.cons_prefix_cons.mpr ⟨rfl, hfront⟩, hlt⟩

/-- A character that changes by how many braces are open changes what closes behind it. -/
theorem closesIn_cons_iff_closesIn {c : Char} {depth depth' : Nat} {cs : List Char}
    (h : ∀ front : List Char, (c :: front).count '{' + depth < (c :: front).count '}' ↔
      front.count '{' + depth' < front.count '}') :
    ClosesIn depth (c :: cs) ↔ ClosesIn depth' cs :=
  closesIn_cons_iff.trans (exists_congr fun front ↦ and_congr_right fun _ ↦ h front)

/-- The scan finds a closing brace exactly where more braces have closed than opened. -/
theorem closesDoubled_iff {depth : Nat} {cs : List Char} :
    closesDoubled depth cs = true ↔ ClosesIn depth cs := by
  fun_induction closesDoubled depth cs with
  | case1 => exact iff_of_false Bool.false_ne_true not_closesIn_nil
  | case2 depth rest ih =>
    refine ih.trans (closesIn_cons_iff_closesIn fun front ↦ ?_).symm
    rw [List.count_cons_self, List.count_cons_of_ne (by decide)]
    omega
  | case3 rest =>
    refine iff_of_true rfl (closesIn_cons_iff.mpr ⟨[], List.nil_prefix, ?_⟩)
    decide
  | case4 depth rest ih =>
    refine ih.trans (closesIn_cons_iff_closesIn fun front ↦ ?_).symm
    rw [List.count_cons_self, List.count_cons_of_ne (by decide)]
    omega
  | case5 depth c rest hopen hclose hcloses ih =>
    have hc : c ≠ '}' := by
      cases depth with
      | zero => exact hclose rfl
      | succ d => exact hcloses d rfl
    refine ih.trans (closesIn_cons_iff_closesIn fun front ↦ ?_).symm
    rw [List.count_cons_of_ne hopen, List.count_cons_of_ne hc]

end Parser

/-! ## Templates that are turned away -/

section

variable {mode : EscapeMode} {source : List Char}

mutual

/-- Placeholders inside of formats rebuild the source as well. -/
theorem Template.rebuilds_opened : ∀ (t : List Node) {start stop : Nat},
    Template.Rebuilds mode source t start stop →
      ∀ p ∈ Template.opened t, Placeholder.Rebuilds mode source p
  | [], _, _, _, _, hp => absurd hp List.not_mem_nil
  | .literal _ :: ns, _, _, h, p, hp => Template.rebuilds_opened ns h.2.2.2.2 p hp
  | .placeholder q :: ns, _, _, h, p, hp => by
    rcases List.mem_append.mp hp with hp | hp
    · exact Placeholder.rebuilds_opened q h.2.1 p hp
    · exact Template.rebuilds_opened ns h.2.2 p hp

theorem Placeholder.rebuilds_opened : ∀ (q : Placeholder), Placeholder.Rebuilds mode source q →
    ∀ p ∈ Placeholder.opened q, Placeholder.Rebuilds mode source p
  | ⟨_, _, format, _, _⟩, h, p, hp => by
    rcases List.mem_cons.mp hp with rfl | hp
    · exact h
    · obtain ⟨_, _, _, _, _, hformat, _⟩ := h
      exact Format.rebuilds_opened? format hformat p hp

theorem Format.rebuilds_opened? : ∀ (f : Option Format) {text : List Char} {stop : Nat},
    Format.Rebuilds? mode source f text stop →
      ∀ p ∈ Format.opened? f, Placeholder.Rebuilds mode source p
  | none, _, _, _, _, hp => absurd hp List.not_mem_nil
  | some ⟨template, _, _⟩, _, _, h, p, hp => Template.rebuilds_opened template h.2.2 p hp

end

/-- A placeholder in which no more braces open than close is closed for the scan. -/
theorem Placeholder.Rebuilds.closesIn_behind {p : Placeholder}
    (h : Placeholder.Rebuilds mode source p)
    (hcount : p.raw.toList.count '{' ≤ p.raw.toList.count '}') :
    Parser.ClosesIn 0 (p.behind source) := by
  obtain ⟨selectors, width, format, raw, span⟩ := p
  obtain ⟨hslice, _, widthText, formatText, _, _, hraw⟩ := h
  simp only [hraw] at hslice hcount
  generalize (".".intercalate (selectors.map Selector.text)).toList ++
    (widthText ++ (formatText ++ ['}'])) = body at hslice hcount
  obtain ⟨before, rest, rfl, hstart, _⟩ := Span.slice?_eq_some_iff.mp hslice
  have hcut : cutAt? (span.start + 1) (before ++ ('{' :: body ++ rest)) =
      some (before ++ ['{'], body ++ rest) := by
    refine cutAt?_eq_some_iff.mpr ⟨?_, ?_⟩
    · rw [List.append_assoc]
      rfl
    · rw [byteWidth_append, hstart]
      rfl
  have hbehind : Placeholder.behind (before ++ ('{' :: body ++ rest))
      ⟨selectors, width, format, raw, span⟩ = body ++ rest := by
    rw [Placeholder.behind, hcut]
    rfl
  rw [hbehind]
  rw [List.count_cons_self, List.count_cons_of_ne (by decide)] at hcount
  exact ⟨body, List.prefix_append _ _, hcount⟩

end

/-- The template that a text is, read without looking ahead. -/
def Template.parseBlind (mode : EscapeMode) (source : String) : Except SyntaxError Template :=
  Parser.parseWith mode (fun _ ↦ true) source

/-- **What looking ahead turns away.** Where braces are doubled, every template is one without
looking ahead too. In the other direction, a template that was read without looking ahead is read
the same with it exactly if, behind the opening brace of every placeholder, more braces close than
open at some point, doubled ones counted as two. Otherwise the first placeholder for which this is
not so is called unclosed. It is so for all of them if no placeholder has more braces that open than
braces that close. -/
theorem Template.parse_doubled_of_parseBlind (source : String) (t : Template) :
    (parse .doubledBrace source = .ok t → parseBlind .doubledBrace source = .ok t) ∧
    (parseBlind .doubledBrace source = .ok t →
      (parse .doubledBrace source = .ok t ↔
          ∀ p ∈ opened t, Parser.ClosesIn 0 (p.behind source.toList)) ∧
        (∀ before p after, opened t = before ++ p :: after →
          (∀ q ∈ before, Parser.ClosesIn 0 (q.behind source.toList)) →
          ¬Parser.ClosesIn 0 (p.behind source.toList) →
          parse .doubledBrace source =
            .error ⟨.unclosedPlaceholder, ⟨p.span.start, p.span.start + 1⟩⟩) ∧
        ((∀ p ∈ opened t, p.raw.toList.count '{' ≤ p.raw.toList.count '}') →
          parse .doubledBrace source = .ok t)) := by
  refine ⟨Parser.parseWith_blind, fun hblind ↦ ?_⟩
  have hscan : ∀ p : Placeholder, (!Parser.closes .doubledBrace (p.behind source.toList)) = true ↔
      ¬Parser.ClosesIn 0 (p.behind source.toList) := by
    intro p
    rw [Bool.not_eq_true', ← Bool.not_eq_true]
    exact not_congr Parser.closesDoubled_iff
  have hparse := Parser.parseWith_of_blind (Parser.closes .doubledBrace) hblind
  have hok : (∀ p ∈ opened t, Parser.ClosesIn 0 (p.behind source.toList)) →
      parse .doubledBrace source = .ok t := by
    intro hall
    rw [List.find?_eq_none.mpr fun p hp h ↦ (hscan p).mp h (hall p hp)] at hparse
    exact hparse
  refine ⟨⟨fun hparsed p hp ↦ ?_, hok⟩, fun before p after hopened hbefore hp ↦ ?_, fun hcount ↦ ?_⟩
  · -- A placeholder that is not closed for the scan would have made an error.
    by_contra hclosed
    cases hfirst : (opened t).find? fun p ↦
        !Parser.closes .doubledBrace (p.behind source.toList) with
    | none => exact List.find?_eq_none.mp hfirst p hp ((hscan p).mpr hclosed)
    | some q =>
      rw [hfirst] at hparse
      exact absurd (hparsed.symm.trans hparse) nofun
  · have hfirst : (opened t).find? (fun p ↦
        !Parser.closes .doubledBrace (p.behind source.toList)) = some p := by
      refine List.find?_eq_some_iff_append.mpr ⟨(hscan p).mpr hp, before, after, hopened, ?_⟩
      intro q hq
      rw [Bool.not_not]
      exact Parser.closesDoubled_iff.mpr (hbefore q hq)
    rw [hfirst] at hparse
    exact hparse
  · obtain ⟨ps, next, hps, rfl⟩ := Parser.parseWith_eq_ok_iff.mp hblind
    have hrebuilds := (Parser.reads_of_pieces hps).rebuilds (Cursor.within_ofString source)
    exact hok fun p hp ↦ (rebuilds_opened _ hrebuilds p hp).closesIn_behind (hcount p hp)

/-- A placeholder whose format is a literal brace that opens and a letter. -/
def unevenSample : Placeholder :=
  { selectors := [.ofText "a" ⟨1, 2⟩ true]
    alignment := none
    format := some (.ofTemplate [.literal ⟨"\x7bb", ⟨3, 6⟩⟩] ⟨3, 6⟩)
    raw := "\x7ba:\x7b\x7bb\x7d"
    span := ⟨0, 7⟩ }

/-- A placeholder whose format is a letter between literal braces. -/
def evenSample : Placeholder :=
  { selectors := [.ofText "a" ⟨1, 2⟩ true]
    alignment := none
    format := some (.ofTemplate [.literal ⟨"\x7bb\x7d", ⟨3, 8⟩⟩] ⟨3, 8⟩)
    raw := "\x7ba:\x7b\x7bb\x7d\x7d\x7d"
    span := ⟨0, 9⟩ }

/-- A literal brace is made up for by another one, and turned away without. -/
theorem Template.parse_doubled_of_parseBlind_samples :
    parseBlind .doubledBrace evenSample.raw = .ok [.placeholder evenSample] ∧
      parse .doubledBrace evenSample.raw = .ok [.placeholder evenSample] ∧
      parseBlind .doubledBrace unevenSample.raw = .ok [.placeholder unevenSample] ∧
      parse .doubledBrace unevenSample.raw = .error ⟨.unclosedPlaceholder, ⟨0, 1⟩⟩ := by
  have heven : parseBlind .doubledBrace evenSample.raw = .ok [.placeholder evenSample] := rfl
  have huneven : parseBlind .doubledBrace unevenSample.raw = .ok [.placeholder unevenSample] := rfl
  have hcount : ∀ p ∈ opened [.placeholder evenSample],
      p.raw.toList.count '{' ≤ p.raw.toList.count '}' := by
    intro p hp
    obtain rfl : p = evenSample := List.mem_singleton.mp hp
    decide
  have hclosed : ¬Parser.ClosesIn 0 (unevenSample.behind unevenSample.raw.toList) := by
    rw [← Parser.closesDoubled_iff]
    exact Bool.false_ne_true
  refine ⟨heven, ?_, huneven, ?_⟩
  · exact ((parse_doubled_of_parseBlind _ _).2 heven).2.2 hcount
  · exact ((parse_doubled_of_parseBlind _ _).2 huneven).2.1 [] unevenSample [] rfl
      (List.forall_mem_nil _) hclosed

/-- The scan takes the brace that closes this placeholder for the partner of a literal one. -/
theorem Template.parse_unevenSample :
    parseBlind .doubledBrace "\x7ba:\x7b\x7bb\x7d" = .ok [.placeholder unevenSample] ∧
      parse .doubledBrace "\x7ba:\x7b\x7bb\x7d" ≠ .ok [.placeholder unevenSample] ∧
      parse .doubledBrace "\x7ba:\x7b\x7bb\x7d" = .error ⟨.unclosedPlaceholder, ⟨0, 1⟩⟩ := by
  have herror : parse .doubledBrace "\x7ba:\x7b\x7bb\x7d" =
      .error ⟨.unclosedPlaceholder, ⟨0, 1⟩⟩ := rfl
  exact ⟨rfl, herror ▸ nofun, herror⟩

end TextTemplate
