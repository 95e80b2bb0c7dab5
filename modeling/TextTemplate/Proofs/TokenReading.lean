import TextTemplate.Proofs.EscapeModes
import TextTemplate.Proofs.TokenPlaces

/-!
# Reading tokens comes to an end

The reader of tokens and the reader of characters give the same template for every text, or the same
error, and the reader of tokens stops with no defect.

The two are compared place by place: `Agrees` says that they stop at the same error or go on from
the same place with related results. Since a defect agrees with nothing, one induction shows that
both read the same and that every check on the way is passed: each round of a loop, each placeholder
and each specifier leaves less of the text, so a bound above the bytes of the text is never met.

## Literal text

A text is one token and many characters, so a round of the one reader is as many steps of the other.
`Template.consText` is what they have in common: text in front of a template, joined with a literal
that stands there.
-/

namespace TextTemplate

/-! ## Text in front of a template -/

namespace Template

/-- Puts literal text in front of a template. -/
def consText (text : String) (span : Span) : Template → Template
  | .literal l :: ns => .literal ⟨text ++ l.text, span.through l.span⟩ :: ns
  | ns => .literal ⟨text, span⟩ :: ns

theorem consText_singleton (c : Char) (span : Span) (t : Template) :
    consText (.singleton c) span t = consChar c span t := by
  match t with
  | [] => rfl
  | .literal l :: ns => rfl
  | .placeholder p :: ns => rfl

theorem consText_consText (text text' : String) (first last : Span) (t : Template) :
    consText text first (consText text' last t) =
      consText (text ++ text') (first.through last) t := by
  match t with
  | [] => rfl
  | .literal l :: ns =>
    rw [consText, consText, consText, String.append_assoc]
    rfl
  | .placeholder p :: ns => rfl

end Template

/-- The characters of a text that begins at a byte, as pieces. -/
def Piece.ofChars : Nat → List Char → List Piece
  | _, [] => []
  | offset, c :: cs =>
    .char c ⟨offset, offset + c.utf8Size⟩ :: ofChars (offset + c.utf8Size) cs

theorem Piece.gather_ofChars_append {text : List Char} (hne : text ≠ []) (offset : Nat)
    (ps : List Piece) :
    gather (ofChars offset text ++ ps) =
      Template.consText (String.ofList text) ⟨offset, offset + byteWidth text⟩ (gather ps) := by
  induction text generalizing offset with
  | nil => exact absurd rfl hne
  | cons c text ih =>
    rw [ofChars, List.cons_append, gather_char, ← Template.consText_singleton, String.ofList_cons,
      byteWidth_cons, ← Nat.add_assoc]
    cases text with
    | nil =>
      rw [ofChars, List.nil_append, String.ofList_nil, String.append_empty]
      rfl
    | cons d text =>
      rw [ih (List.cons_ne_nil d text), Template.consText_consText]
      rfl

namespace Parser

variable {mode : EscapeMode} {closes : List Char → Bool}

theorem pieces_char {k : Cursor} {c : Char} {width : Nat} {rest : List Char}
    (h : front mode k.rest = .char c width rest) (bound : Nat) (scope : Scope) :
    pieces mode closes (bound + 1) scope k =
      pieces mode closes bound scope ⟨k.offset + width, rest⟩ >>= fun (ps, next) ↦
        pure (.char c ⟨k.offset, k.offset + width⟩ :: ps, next) := by
  conv_lhs => unfold pieces
  rw [h]

theorem pieces_opening {k : Cursor} {rest : List Char} (h : front mode k.rest = .opening rest)
    (bound : Nat) (scope : Scope) :
    pieces mode closes (bound + 1) scope k =
      if closes rest then
        placeholder bound (pieces mode closes bound .format) k rest >>= fun (p, next) ↦
          pieces mode closes bound scope next >>= fun (ps, last) ↦
            pure (.placeholder p :: ps, last)
      else unclosed k.offset := by
  conv_lhs => unfold pieces
  rw [h]

/-- Characters that are no marks stand for themselves. -/
theorem pieces_append {k next : Cursor} {text : List Char} (hpass : k.Passes text next)
    (htext : ∀ c ∈ text, isMark c = false) (bound : Nat) (scope : Scope) :
    pieces mode closes (bound + text.length) scope k =
      pieces mode closes bound scope next >>= fun (ps, last) ↦
        pure (Piece.ofChars k.offset text ++ ps, last) := by
  induction text generalizing k with
  | nil =>
    obtain rfl := hpass.eq_of_nil
    generalize pieces mode closes bound scope k = r
    cases r <;> rfl
  | cons c text ih =>
    obtain ⟨hc, htext⟩ := List.forall_mem_cons.mp htext
    have hplain : IsPlain [c] := isPlain_of_isMark fun d hd ↦ List.mem_singleton.mp hd ▸ hc
    obtain ⟨hopen, hclose, hback⟩ := hplain c List.mem_cons_self
    have hspelling : Spelling mode [c] c :=
      .plain (isBrace_eq_false_iff.mpr ⟨hopen, hclose⟩) fun _ ↦ hback
    have hfront : front mode k.rest = .char c c.utf8Size (text ++ next.rest) :=
      front_eq_char_iff.mpr ⟨[c], hspelling, hpass.rest, rfl⟩
    have hmid : Cursor.Passes ⟨k.offset + c.utf8Size, text ++ next.rest⟩ text next := by
      refine ⟨rfl, ?_⟩
      rw [hpass.offset, byteWidth_cons, Nat.add_assoc]
    rw [List.length_cons, ← Nat.add_assoc, pieces_char hfront, ih hmid htext, bind_assoc]
    rfl

end Parser

namespace TokenReader

/-! ## Collecting -/

namespace Collected

/-- What was collected, in front of a template. -/
def before (c : Collected) (t : Template) : Template :=
  match c.literal with
  | none => c.nodes ++ t
  | some (text, span) => c.nodes ++ t.consText text span

theorem before_nil (c : Collected) : c.before [] = c.flush := by
  obtain ⟨nodes, literal⟩ := c
  cases literal with
  | none => exact List.append_nil nodes
  | some l => rfl

theorem before_push (c : Collected) (text : String) (span : Span) (t : Template) :
    (c.push text span).before t = c.before (t.consText text span) := by
  obtain ⟨nodes, literal⟩ := c
  cases literal with
  | none => rfl
  | some l =>
    obtain ⟨front, first⟩ := l
    simp only [push, before, Template.consText_consText]

theorem before_place (c : Collected) (p : Placeholder) (t : Template) :
    (c.place p).before t = c.before (.placeholder p :: t) := by
  obtain ⟨nodes, literal⟩ := c
  cases literal with
  | none => exact List.append_assoc _ _ _
  | some l =>
    simp only [place, flush, before, Template.consText, List.append_assoc, List.cons_append,
      List.nil_append]

end Collected

/-! ## Agreement -/

/-- Both readers go on from one place with related results, or both stop at one error. -/
inductive Agrees {α β : Type} (source : List Char) (R : α → β → Prop) :
    Except Halt (α × State) → Except Parser.Halt (β × Cursor) → Prop
  | ok {a : α} {b : β} {s : State} {k : Cursor} : R a b → s.At source k →
      Agrees source R (.ok (a, s)) (.ok (b, k))
  | malformed (e : SyntaxError) : Agrees source R (.error (.malformed e)) (.error (.malformed e))

namespace Agrees

variable {α β α' β' : Type} {source : List Char} {R : α → β → Prop} {R' : α' → β' → Prop}
  {r : Except Halt (α × State)} {r' : Except Parser.Halt (β × Cursor)}

theorem unclosed (opening : Nat) :
    Agrees source R (TokenReader.unclosed opening) (Parser.unclosed opening) := .malformed _

theorem bind {f : α × State → Except Halt (α' × State)}
    {f' : β × Cursor → Except Parser.Halt (β' × Cursor)} (h : Agrees source R r r')
    (hf : ∀ a b s k, R a b → s.At source k → r' = .ok (b, k) →
      Agrees source R' (f (a, s)) (f' (b, k))) :
    Agrees source R' (r >>= f) (r' >>= f') := by
  cases h with
  | ok hR hs => exact hf _ _ _ _ hR hs rfl
  | malformed e => exact .malformed e

/-- The reader of characters may put something in front of what it reads. -/
theorem map {β' : Type} {R' : α → β' → Prop} {g : β → β'} (h : Agrees source R r r')
    (hR : ∀ a b, R a b → R' a (g b)) :
    Agrees source R' r (r' >>= fun (b, k) ↦ pure (g b, k)) := by
  cases h with
  | ok hr hs => exact .ok (hR _ _ hr) hs
  | malformed e => exact .malformed e

end Agrees

variable {source : List Char} {mode : EscapeMode} {s : State} {k : Cursor}

/-! ## The parts of a placeholder -/

theorem segment_agrees (hs : s.At source k) (opening : Nat) (leading : Bool) :
    Agrees source (· = ·) (segment opening leading s) (Parser.segment opening leading k) := by
  unfold segment Parser.segment
  cases hrest : k.rest with
  | nil =>
    rw [hs.peek_finish hrest]
    exact .unclosed opening
  | cons c rest =>
    cases hc : isMark c with
    | true =>
      rw [(hs.mark hrest hc).1]
      rcases Token.eq_of_isMark hc with rfl | rfl | rfl | rfl | rfl | rfl <;>
        cases leading <;> exact .malformed _
    | false =>
      obtain ⟨hpeek, hskip⟩ := hs.text hrest hc
      rw [hpeek]
      simp only [String.toList_ofList, hc, Bool.false_eq_true, if_false]
      cases Parser.firstInvalid? k.run.1 with
      | none => exact .ok rfl hskip
      | some invalid => exact .malformed _

/-- Each round of the loop over a path leaves less of the text. -/
theorem selectors_agrees {bound bound' : Nat} (opening : Nat) (found : List Selector)
    (hs : s.At source k) (hbound : s.left < bound) (hbound' : k.rest.length < bound') :
    Agrees source (fun xs ys ↦ xs = found ++ ys) (selectors opening bound found s)
      (Parser.path opening bound' found.isEmpty k) := by
  induction bound generalizing bound' found s k with
  | zero => exact absurd hbound (Nat.not_lt_zero _)
  | succ bound ih =>
    obtain ⟨bound', rfl⟩ := Nat.exists_eq_add_one_of_ne_zero (Nat.ne_zero_of_lt hbound')
    rw [selectors, Parser.path]
    refine (segment_agrees hs opening found.isEmpty).bind fun x y next k' hxy hnext hsegment ↦ ?_
    subst hxy
    obtain ⟨text, hpass, hne⟩ : ∃ text, k.Passes text k' ∧ text ≠ [] := by
      cases Parser.segment_eq_ok_iff.mp hsegment with
      | mk text hpass htext _ => exact ⟨text, hpass, htext.ne_nil⟩
    simp only
    by_cases hdot : ∃ rest, k'.rest = '.' :: rest
    · rw [if_pos ((hnext.token_eq_mark_iff rfl).mpr hdot)]
      obtain ⟨rest, hrest⟩ := hdot
      have hskip := (hnext.mark hrest rfl).2
      have hpass := hpass.trans (Cursor.Passes.mark hrest rfl)
      have hlen := hpass.length_add
      have hleft : (next.skip 1).left < s.left :=
        left_lt hs hskip hpass (List.append_ne_nil_of_left_ne_nil hne _)
      have htail := @ih _ _ bound' (found ++ [x]) hskip (by omega)
        (by rw [List.length_append, List.length_singleton] at hlen; simp only at hlen ⊢; omega)
      have hlater : (found ++ [x]).isEmpty = false :=
        List.isEmpty_eq_false_iff.mpr (List.append_ne_nil_of_right_ne_nil _ (List.cons_ne_nil _ _))
      rw [hlater] at htail
      rw [onward_of_lt hleft, hrest]
      exact htail.map fun xs ys hxs ↦ by rw [hxs, List.append_assoc, List.singleton_append]
    · rw [if_neg fun htoken ↦ hdot ((hnext.token_eq_mark_iff rfl).mp htoken)]
      split
      · rename_i rest hrest
        exact absurd ⟨rest, hrest⟩ hdot
      · exact .ok rfl hnext

theorem alignment_agrees (hs : s.At source k) :
    Agrees source (· = ·) (alignment s) (Parser.alignment k) := by
  by_cases hcomma : ∃ rest, k.rest = ',' :: rest
  · obtain ⟨rest, hrest⟩ := hcomma
    obtain ⟨hpeek, hskip⟩ := hs.mark hrest rfl
    unfold alignment Parser.alignment
    rw [hpeek, hrest]
    cases rest with
    | nil =>
      simp only [hskip.peek_finish rfl]
      exact .malformed _
    | cons c rest =>
      cases hc : isMark c with
      | true =>
        have hrun : (Cursor.run ⟨k.offset + 1, c :: rest⟩).1 = [] := by
          rw [Cursor.run, List.takeWhile_cons_of_neg]
          rw [hc]
          exact Bool.false_ne_true
        simp only [(hskip.mark rfl hc).1, hrun, List.isEmpty_nil, if_true]
        exact .malformed _
      | false =>
        obtain ⟨hpeek', hskip'⟩ := hskip.text rfl hc
        have hne := List.isEmpty_eq_false_iff.mpr
          (Parser.run_ne_nil (k := ⟨k.offset + 1, c :: rest⟩) rfl hc)
        simp only [hpeek', hne, Bool.false_eq_true, if_false, String.toList_ofList]
        cases (Numeral.signed? (Cursor.run ⟨k.offset + 1, c :: rest⟩).1).bind Numeral.int32? with
        | none => exact .malformed _
        | some n => exact .ok rfl hskip'
  · have hnone : alignment s = .ok (none, s) := by
      unfold alignment
      split
      · rename_i comma hpeek
        exact absurd hpeek (hs.peek_ne_mark rfl hcomma comma)
      · rfl
    rw [hnone, Parser.alignment_eq_ok_iff.mpr (.none fun rest hrest ↦ hcomma ⟨rest, hrest⟩)]
    exact .ok rfl hs

/-! ## Placeholders -/

/-- What is known of the readers of a specifier: they agree where both bounds are above what is
left, and they stop at a mark or at the end of the text. -/
structure SpecifierAgrees (source : List Char) (bound bound' : Nat)
    (specifier : State → Except Halt (Template × State))
    (specifier' : Cursor → Except Parser.Halt (List Piece × Cursor)) : Prop where
  agrees : ∀ s k, s.At source k → s.left < bound → k.rest.length < bound' →
    Agrees source (fun t ps ↦ t = Piece.gather ps) (specifier s) (specifier' k)
  ends : ∀ k ps next, specifier' k = .ok (ps, next) →
    Parser.AtMark next.rest ∧ ∃ text, k.Passes text next

variable {bound bound' : Nat} {specifier : State → Except Halt (Template × State)}
  {specifier' : Cursor → Except Parser.Halt (List Piece × Cursor)}

theorem format_agrees (hspecifier : SpecifierAgrees source bound bound' specifier specifier')
    {before : State} (hs : s.At source k) (hbefore : s.left ≤ before.left)
    (hbound : s.left ≤ bound) (hbound' : k.rest.length ≤ bound') :
    Agrees source (· = ·) (format source before specifier s) (Parser.format specifier' k) := by
  by_cases hcolon : ∃ rest, k.rest = ':' :: rest
  · obtain ⟨rest, hrest⟩ := hcolon
    obtain ⟨hpeek, hskip⟩ := hs.mark hrest rfl
    have hleft := left_lt hs hskip (Cursor.Passes.mark hrest rfl) (List.cons_ne_nil _ _)
    unfold format Parser.format
    rw [hpeek, hrest]
    simp only
    rw [onward_of_lt (Nat.lt_of_lt_of_le hleft hbefore)]
    rw [hrest, List.length_cons] at hbound'
    refine (hspecifier.agrees _ _ hskip (by omega) (by simp only; omega)).bind
      fun t ps next k' ht hnext _ ↦ ?_
    subst ht
    simp only [hnext.stop]
    exact .ok rfl hnext
  · have hnone : format source before specifier s = .ok (none, s) := by
      unfold format
      split
      · rename_i colon hpeek
        exact absurd hpeek (hs.peek_ne_mark rfl hcolon colon)
      · rfl
    rw [hnone, Parser.format_of_bare fun rest hrest ↦ hcolon ⟨rest, hrest⟩]
    exact .ok rfl hs

theorem format_ends (hspecifier : SpecifierAgrees source bound bound' specifier specifier')
    {f : Option Format} {next : Cursor} (h : Parser.format specifier' k = .ok (f, next))
    (hmark : Parser.AtMark k.rest) :
    Parser.AtMark next.rest ∧ ∃ text, k.Passes text next := by
  unfold Parser.format at h
  split at h
  · rename_i rest hrest
    obtain ⟨⟨ps, stop⟩, hps, h⟩ := Parser.ok_of_bind h
    cases h
    obtain ⟨hmark, text, hpass⟩ := hspecifier.ends _ _ _ hps
    exact ⟨hmark, _, (Cursor.Passes.mark hrest rfl).trans hpass⟩
  · cases h
    exact ⟨hmark, [], .refl k⟩

/-- A placeholder is the slice of the source between its braces. -/
theorem close_eq_ok {opening : Cursor} {text rest : List Char} (hs : s.At source k)
    (hopening : opening.Within source) (hpass : opening.Passes text k)
    (hrest : k.rest = '}' :: rest) (selectors : List Selector) (alignment : Option Int32)
    (format : Option Format) :
    close source opening.offset selectors alignment format s =
      .ok (Parser.placeholderAt opening ⟨k.offset + 1, rest⟩ selectors alignment format,
        s.skip 1) := by
  have hall := hpass.trans (Cursor.Passes.mark hrest rfl)
  have hslice := hall.slice? hopening
  simp only at hslice
  simp only [close, (hs.mark hrest rfl).1, hslice, Parser.placeholderAt, hall.upTo]

/-- Any other mark does not belong where a placeholder is closed. -/
theorem close_of_mark {c : Char} {rest : List Char} (hs : s.At source k)
    (hrest : k.rest = c :: rest) (hc : isMark c = true) (hclose : c ≠ '}') (opening : Nat)
    (selectors : List Selector) (alignment : Option Int32) (format : Option Format) :
    close source opening selectors alignment format s =
      fail (.unexpectedChar c) ⟨k.offset, k.offset + c.utf8Size⟩ := by
  unfold close
  rw [(hs.mark hrest hc).1]
  rcases Token.eq_of_isMark hc with rfl | rfl | rfl | rfl | rfl | rfl <;>
    first | exact absurd rfl hclose | rfl

/-- Where the scan finds a closing brace, both readers read the same placeholder. -/
theorem placeholder_agrees (hspecifier : SpecifierAgrees source bound bound' specifier specifier')
    {rest : List Char} (hs : s.At source k) (hfront : Parser.front mode k.rest = .opening rest)
    (hcloses : Parser.closes mode rest = true) (hbound : s.left ≤ bound)
    (hbound' : rest.length < bound') :
    Agrees source (· = ·) (placeholder source mode bound specifier s)
      (Parser.placeholder bound' specifier' k rest) := by
  have hrest := (Parser.front_eq_opening_iff.mp hfront).1
  obtain ⟨hpeek, hinner⟩ := hs.mark hrest rfl
  have hleft := left_lt hs hinner (.mark hrest rfl) (List.cons_ne_nil _ _)
  have hscan : closes mode false 0 (s.skip 1).unread = true := by
    rw [closes_of_at hinner, hcloses]
  unfold placeholder Parser.placeholder
  simp only [hpeek, hscan, if_true]
  refine (selectors_agrees k.offset [] hinner (by omega) hbound').bind
    fun xs ys s₁ k₁ hxs hs₁ hpath ↦ ?_
  obtain rfl : xs = ys := hxs
  refine (alignment_agrees hs₁).bind fun width width' s₂ k₂ hwidth hs₂ halignment ↦ ?_
  obtain rfl : width = width' := hwidth
  have hhead : Parser.ReadsHead mode (Parser.closes mode) k xs width k₂ :=
    .mk hfront hcloses (Parser.readsPath_of_path hpath) (Parser.alignment_eq_ok_iff.mp halignment)
  obtain ⟨text₂, _, hpass₂⟩ := hhead.passes
  have hleft₂ := left_lt hs hs₂ hpass₂ (List.cons_ne_nil _ _)
  have hlen₂ := hpass₂.length_add
  rw [hrest, List.length_cons, List.length_cons] at hlen₂
  refine (format_agrees hspecifier hs₂ (by omega) (by omega) (by omega)).bind
    fun f f' s₃ k₃ hf hs₃ hformat ↦ ?_
  obtain rfl : f = f' := hf
  obtain ⟨hmark₃, text₃, hpass₃⟩ := format_ends hspecifier hformat hhead.atMark
  have hpass₃ := hpass₂.trans hpass₃
  simp only
  -- Only a mark can stand behind the format, and a brace is the one that belongs there.
  cases hstop : k₃.rest with
  | nil =>
    simp only [close, hs₃.peek_finish hstop]
    exact .unclosed k.offset
  | cons c tail =>
    have hc : isMark c = true := hmark₃ c (by rw [hstop]; rfl)
    have hnext := (hs₃.mark hstop hc).2
    by_cases hclose : c = '}'
    · subst hclose
      have hall := hpass₃.trans (Cursor.Passes.mark hstop rfl)
      rw [close_eq_ok hs₃ hs.within hpass₃ hstop]
      simp only [bind, Except.bind]
      rw [onward_of_lt (left_lt hs hnext hall (List.cons_ne_nil _ _))]
      exact .ok rfl hnext
    · rw [close_of_mark hs₃ hstop hc hclose]
      split
      · rename_i h
        exact absurd (List.head_eq_of_cons_eq h) hclose
      · rename_i h
        cases h
        exact .malformed _
      · rename_i h
        exact absurd h (List.cons_ne_nil _ _)

theorem placeholder_of_not_closes {rest : List Char} (hs : s.At source k)
    (hrest : k.rest = '{' :: rest) (hcloses : ¬Parser.closes mode rest = true) :
    placeholder source mode bound specifier s = unclosed k.offset := by
  obtain ⟨hpeek, hinner⟩ := hs.mark hrest rfl
  have hscan : closes mode false 0 (s.skip 1).unread = false := by
    rw [closes_of_at hinner, Bool.eq_false_iff]
    exact hcloses
  unfold placeholder
  simp only [hpeek, hscan, Bool.false_eq_true, if_false]

/-! ## Escapes -/

theorem unescape_of_isMark {c : Char} (hc : isMark c = true) : Parser.unescape c = some c := by
  rcases Token.eq_of_isMark hc with rfl | rfl | rfl | rfl | rfl | rfl <;> rfl

theorem unescape_of_text {c : Char} (hc : isMark c = false) : Parser.unescape c = letter? c := by
  unfold Parser.unescape
  split
  · rfl
  · rfl
  · rename_i hn ht
    rw [hc, if_neg Bool.false_ne_true, letter?]
    · exact hn
    · exact ht

theorem escape_of_nil (hs : s.At source k) (hrest : k.rest = []) (backslash : Span) :
    escape backslash s = fail (.invalidEscape none) backslash := by
  rw [escape, hs.peek_finish hrest]

/-- An escape takes one character, also where it is the first of a text: the rest of the text stays
where it is, and the state is behind the character. -/
theorem escape_of_some {c d : Char} {rest : List Char} (hs : s.At source k)
    (hrest : k.rest = c :: rest) (hc : Parser.unescape c = some d) (backslash : Span) :
    ∃ next, escape backslash s = .ok (d, ⟨backslash.start, k.offset + c.utf8Size⟩, next) ∧
      next.At source ⟨k.offset + c.utf8Size, rest⟩ := by
  cases hmark : isMark c with
  | true =>
    obtain ⟨hpeek, hskip⟩ := hs.mark hrest hmark
    rw [unescape_of_isMark hmark] at hc
    obtain rfl := Option.some.inj hc
    rw [Token.utf8Size_of_isMark hmark, escape, hpeek]
    exact ⟨s.skip 1, rfl, hskip⟩
  | false =>
    obtain ⟨hpeek, hskip⟩ := hs.text hrest hmark
    obtain ⟨more, hrun, hmore, hstop⟩ := Parser.run_cons hrest hmark
    rw [unescape_of_text hmark] at hc
    rw [escape, hpeek]
    simp only [char?, String.toList_ofList, hrun, hc]
    refine ⟨_, rfl, ?_⟩
    by_cases hsplit : k.offset + c.utf8Size = k.run.2.offset
    · -- The text is one character long, and nothing of it is left.
      rw [if_pos hsplit]
      obtain rfl : more = [] := by
        by_contra hne
        have hpos := byteWidth_pos hne
        omega
      rw [hsplit, hmore]
      exact hskip
    · rw [if_neg hsplit]
      refine hs.replace hrest hmark hrun fun hnil ↦ hsplit ?_
      rw [hstop, hnil]
      rfl

theorem escape_of_none {c : Char} {rest : List Char} (hs : s.At source k)
    (hrest : k.rest = c :: rest) (hc : Parser.unescape c = none) (backslash : Span) :
    escape backslash s =
      fail (.invalidEscape (some c)) ⟨backslash.start, k.offset + c.utf8Size⟩ := by
  cases hmark : isMark c with
  | true => exact absurd ((unescape_of_isMark hmark).symm.trans hc) (Option.some_ne_none c)
  | false =>
    obtain ⟨more, hrun, _, _⟩ := Parser.run_cons hrest hmark
    rw [unescape_of_text hmark] at hc
    rw [escape, (hs.text hrest hmark).1]
    simp only [char?, String.toList_ofList, hrun, hc]

/-! ## Rounds -/

section

variable {scope : Parser.Scope} {inner : State → Except Halt (Placeholder × State)} {c : Collected}

theorem round_of_nil (hs : s.At source k) (hrest : k.rest = []) :
    round mode scope inner c s = .ok .stop := by
  rw [round, hs.peek_finish hrest]

theorem round_of_text {d : Char} {rest : List Char} (hs : s.At source k)
    (hrest : k.rest = d :: rest) (hd : isMark d = false) :
    round mode scope inner c s =
      .ok (.next (c.push (String.ofList k.run.1) ⟨k.offset, k.run.2.offset⟩) (s.skip 1)) := by
  rw [round, (hs.text hrest hd).1]

/-- A mark that is written twice is the only one for which the token behind it matters. -/
theorem not_doubled {m : Char} {rest : List Char} (hs : s.At source k) (hrest : k.rest = m :: rest)
    (hm : isMark m = true) (h : mode = .doubledBrace → ∀ tail, rest ≠ m :: tail) :
    ¬(mode = .doubledBrace ∧ Parser.isBrace m = true ∧ s.token? 1 = some (.mark m)) := by
  rintro ⟨hmode, _, htoken⟩
  obtain ⟨tail, hrest⟩ := (hs.second_eq_mark_iff hrest hm hm).mp htoken
  exact h hmode tail hrest

theorem round_of_opening {rest : List Char} (hs : s.At source k)
    (hfront : Parser.front mode k.rest = .opening rest) :
    round mode scope inner c s =
      inner s >>= fun (p, next) ↦ pure (.next (c.place p) next) := by
  obtain ⟨hrest, hsingle⟩ := Parser.front_eq_opening_iff.mp hfront
  rw [round, (hs.mark hrest rfl).1]
  simp only
  rw [if_neg (not_doubled hs hrest rfl hsingle), if_pos trivial]

theorem round_of_closing (hs : s.At source k) (hfront : Parser.front mode k.rest = .closing) :
    round mode .root inner c s = fail .unexpectedClose ⟨k.offset, k.offset + 1⟩ ∧
      round mode .format inner c s = .ok .stop := by
  obtain ⟨rest, hrest, hsingle⟩ := Parser.front_eq_closing_iff.mp hfront
  have hdoubled := not_doubled hs hrest rfl hsingle
  constructor
  · rw [round, (hs.mark hrest rfl).1]
    simp only
    rw [if_neg hdoubled, if_neg (by decide), if_pos trivial]
  · rw [round, (hs.mark hrest rfl).1]
    simp only
    rw [if_neg hdoubled, if_neg (by decide), if_pos trivial]

theorem round_of_backslash {rest : List Char} (hs : s.At source k) (hrest : k.rest = '\\' :: rest) :
    round .backslash scope inner c s =
      escape ⟨k.offset, k.offset + 1⟩ (s.skip 1) >>= fun (d, span, next) ↦
        pure (.next (c.push (.singleton d) span) next) := by
  rw [round, (hs.mark hrest rfl).1]
  simp only
  rw [if_neg fun h ↦ EscapeMode.noConfusion h.1, if_neg (by decide), if_neg (by decide),
    if_pos ⟨trivial, trivial⟩]

/-- Where a mark stands for a character, alone or with another one, the round collects the
character and goes on behind it. -/
theorem round_of_char {m d : Char} {width : Nat} {rest tail : List Char} (hs : s.At source k)
    (hrest : k.rest = m :: rest) (hm : isMark m = true)
    (hfront : Parser.front mode k.rest = .char d width tail) :
    ∃ next, round mode scope inner c s =
        .ok (.next (c.push (.singleton d) ⟨k.offset, k.offset + width⟩) next) ∧
      next.At source ⟨k.offset + width, tail⟩ := by
  obtain ⟨hpeek, hskip⟩ := hs.mark hrest hm
  obtain ⟨unit, hspelling, hunit, rfl⟩ := Parser.front_eq_char_iff.mp hfront
  cases hspelling with
  | plain hbrace hback =>
    obtain ⟨rfl, rfl⟩ := List.cons.inj (hrest.symm.trans hunit)
    obtain ⟨hopen, hclose⟩ := Parser.isBrace_eq_false_iff.mp hbrace
    have hdoubled : ¬(mode = .doubledBrace ∧ Parser.isBrace m = true ∧
        s.token? 1 = some (.mark m)) := fun h ↦ Bool.false_ne_true (hbrace.symm.trans h.2.1)
    rw [round, hpeek]
    simp only
    rw [if_neg hdoubled, if_neg hopen, if_neg hclose, if_neg fun h ↦ hback h.2 h.1,
      byteWidth_cons, Token.utf8Size_of_isMark hm]
    exact ⟨s.skip 1, rfl, hskip⟩
  | doubled hbrace =>
    obtain ⟨rfl, rfl⟩ := List.cons.inj (hrest.symm.trans hunit)
    have htoken := (hs.second_eq_mark_iff hrest hm hm).mpr ⟨tail, rfl⟩
    rw [round, hpeek]
    simp only
    rw [if_pos ⟨trivial, hbrace, htoken⟩, byteWidth_cons, byteWidth_cons,
      Token.utf8Size_of_isMark hm]
    exact ⟨s.skip 2, rfl, (hskip.mark rfl hm).2⟩
  | @escaped e _ he =>
    obtain ⟨rfl, rfl⟩ := List.cons.inj (hrest.symm.trans hunit)
    obtain ⟨next, hescape, hnext⟩ := escape_of_some hskip rfl he ⟨k.offset, k.offset + 1⟩
    rw [round_of_backslash hs hrest, hescape, byteWidth_cons, byteWidth_cons, byteWidth_nil]
    simp only [Nat.add_assoc] at hnext ⊢
    exact ⟨next, rfl, hnext⟩

theorem round_of_badEscape {escaped : Option Char} (hs : s.At source k)
    (hfront : Parser.front mode k.rest = .badEscape escaped) :
    round mode scope inner c s = fail (.invalidEscape escaped)
      ⟨k.offset, k.offset + (1 + (escaped.map Char.utf8Size).getD 0)⟩ := by
  have hshape := Parser.front_eq_badEscape hfront
  cases mode with
  | doubledBrace =>
    rcases hshape with ⟨_, hrest⟩ | ⟨d, rest, _, hrest⟩ <;>
      simp [hrest, Parser.front, Parser.frontDoubled] at hfront
  | backslash =>
    rcases hshape with ⟨rfl, hrest⟩ | ⟨d, rest, rfl, hrest⟩
    · rw [round_of_backslash hs hrest, escape_of_nil (hs.mark hrest rfl).2 rfl]
      rfl
    · have hd : Parser.unescape d = none := by
        cases hd : Parser.unescape d with
        | none => rfl
        | some e =>
          have hchar : Parser.front .backslash ('\\' :: d :: rest) = _ :=
            (Parser.Spelling.escaped hd).front
          rw [hrest] at hfront
          exact Parser.Front.noConfusion (hfront.symm.trans hchar)
      rw [round_of_backslash hs hrest, escape_of_none (hs.mark hrest rfl).2 rfl hd, Nat.add_assoc]
      rfl

end

/-! ## Templates -/

section

variable {bound : Nat} {scope : Parser.Scope} {c : Collected}

theorem nodes_of_stop
    (h : round mode scope (placeholder source mode bound (nodes source mode bound .format {})) c s =
      .ok .stop) :
    nodes source mode (bound + 1) scope c s = .ok (c.flush, s) := by
  rw [nodes, h]
  rfl

/-- A round that leaves less of the text is followed by the next one. -/
theorem nodes_of_next {c' : Collected} {next : State}
    (h : round mode scope (placeholder source mode bound (nodes source mode bound .format {})) c s =
      .ok (.next c' next)) (hleft : next.left < s.left) :
    nodes source mode (bound + 1) scope c s = nodes source mode bound scope c' next := by
  rw [nodes, h]
  exact onward_of_lt hleft _

theorem nodes_of_error {e : SyntaxError}
    (h : round mode scope (placeholder source mode bound (nodes source mode bound .format {})) c s =
      .error (.malformed e)) :
    nodes source mode (bound + 1) scope c s = .error (.malformed e) := by
  rw [nodes, h]
  rfl

theorem nodes_of_opening {rest : List Char} (hs : s.At source k)
    (hfront : Parser.front mode k.rest = .opening rest) :
    nodes source mode (bound + 1) scope c s =
      placeholder source mode bound (nodes source mode bound .format {}) s >>= fun (p, next) ↦
        onward s next (nodes source mode bound scope (c.place p) next) := by
  rw [nodes, round_of_opening hs hfront, bind_assoc]
  rfl

/-- Under two bounds, both readers of templates agree wherever less of the text is left. -/
def NodesAgree (source : List Char) (mode : EscapeMode) (bound bound' : Nat) : Prop :=
  ∀ scope c s k, s.At source k → s.left < bound → k.rest.length < bound' →
    Agrees source (fun t ps ↦ t = c.before (Piece.gather ps)) (nodes source mode bound scope c s)
      (Parser.pieces mode (Parser.closes mode) bound' scope k)

variable {bound' : Nat}

theorem NodesAgree.specifierAgrees (h : NodesAgree source mode bound bound') :
    SpecifierAgrees source bound bound' (nodes source mode bound .format {})
      (Parser.pieces mode (Parser.closes mode) bound' .format) := by
  refine ⟨fun s k ↦ h .format {} s k, fun k ps next hps ↦ ?_⟩
  have hreads := Parser.reads_of_pieces hps
  refine ⟨?_, hreads.passes⟩
  rcases hreads.ends with hnil | ⟨rest, hrest⟩
  · rw [hnil]
    exact nofun
  · exact Parser.atMark_of_cons hrest rfl

/-- A placeholder leaves less of the text, and so does the specifier in it. -/
theorem NodesAgree.opening (h : NodesAgree source mode bound bound') {rest : List Char}
    (hs : s.At source k) (hfront : Parser.front mode k.rest = .opening rest)
    (hbound : s.left < bound + 1) (hbound' : k.rest.length < bound' + 1) :
    Agrees source (fun t ps ↦ t = c.before (Piece.gather ps))
      (nodes source mode (bound + 1) scope c s)
      (Parser.pieces mode (Parser.closes mode) (bound' + 1) scope k) := by
  have hrest := (Parser.front_eq_opening_iff.mp hfront).1
  have hlen := Parser.length_eq_of_front_opening hfront
  rw [nodes_of_opening hs hfront, Parser.pieces_opening hfront]
  by_cases hcloses : Parser.closes mode rest = true
  · rw [if_pos hcloses]
    refine (placeholder_agrees h.specifierAgrees hs hfront hcloses (by omega) (by omega)).bind
      fun p p' next k' hp hnext hplaceholder ↦ ?_
    obtain rfl : p = p' := hp
    have hprogress : Parser.Progress rest.length (.ok (p, k')) := by
      rw [← hplaceholder]
      exact Parser.placeholder_progress (by omega) fun _ _ ↦ Parser.pieces_progress (by omega)
    have hprogress : k'.rest.length ≤ rest.length := hprogress
    obtain ⟨text, hpass⟩ := Parser.placeholder_passes hfront hcloses hplaceholder
    have htext := hpass.length_add
    have hleft : next.left < s.left :=
      left_lt hs hnext hpass (List.ne_nil_of_length_pos (by omega))
    simp only
    rw [onward_of_lt hleft]
    refine (h scope (c.place p) next k' hnext (by omega) (by omega)).map fun t ps ht ↦ ?_
    rw [ht, Collected.before_place, Piece.gather_placeholder]
  · rw [if_neg hcloses, placeholder_of_not_closes hs hrest hcloses]
    exact .unclosed k.offset

/-- A text is one round of one reader, and so many steps of the other. -/
theorem NodesAgree.text (h : ∀ bound', NodesAgree source mode bound bound') {d : Char}
    {rest : List Char} (hs : s.At source k) (hrest : k.rest = d :: rest) (hd : isMark d = false)
    (hbound : s.left < bound + 1) (hbound' : k.rest.length < bound') :
    Agrees source (fun t ps ↦ t = c.before (Piece.gather ps))
      (nodes source mode (bound + 1) scope c s)
      (Parser.pieces mode (Parser.closes mode) bound' scope k) := by
  have hskip := (hs.text hrest hd).2
  have hpass := Parser.run_passes k
  have hne := Parser.run_ne_nil hrest hd
  have hleft := left_lt hs hskip hpass hne
  have hlen := hpass.length_add
  obtain ⟨bound', rfl⟩ := Nat.exists_eq_add_of_le' (show k.run.1.length ≤ bound' by omega)
  rw [nodes_of_next (round_of_text hs hrest hd) hleft,
    Parser.pieces_append hpass fun _ ↦ Parser.isMark_of_mem_run]
  refine (h bound' scope _ _ _ hskip (by omega) (by omega)).map fun t ps ht ↦ ?_
  rw [ht, Collected.before_push, Piece.gather_ofChars_append hne, hpass.offset]

theorem NodesAgree.char (h : NodesAgree source mode bound bound') {m d : Char} {width : Nat}
    {rest tail : List Char} (hs : s.At source k) (hrest : k.rest = m :: rest)
    (hm : isMark m = true) (hfront : Parser.front mode k.rest = .char d width tail)
    (hbound : s.left < bound + 1) (hbound' : k.rest.length < bound' + 1) :
    Agrees source (fun t ps ↦ t = c.before (Piece.gather ps))
      (nodes source mode (bound + 1) scope c s)
      (Parser.pieces mode (Parser.closes mode) (bound' + 1) scope k) := by
  obtain ⟨next, hround, hnext⟩ := round_of_char hs hrest hm hfront
  obtain ⟨unit, hunit, hsplit, rfl⟩ := Parser.front_eq_char_iff.mp hfront
  have hpass : k.Passes unit ⟨k.offset + byteWidth unit, tail⟩ := ⟨hsplit, rfl⟩
  have hleft := left_lt hs hnext hpass hunit.ne_nil
  have hlen := Parser.length_lt_of_front_char hfront
  rw [nodes_of_next hround hleft, Parser.pieces_char hfront]
  refine (h scope _ _ _ hnext (by omega) (by simp only; omega)).map fun t ps ht ↦ ?_
  rw [ht, Collected.before_push, Piece.gather_char, Template.consText_singleton]

/-- **The readers agree** at every place, under every two bounds that are above what is left. -/
theorem nodesAgree (source : List Char) (mode : EscapeMode) (bound bound' : Nat) :
    NodesAgree source mode bound bound' := by
  -- A text is one round here and a step for each character there, so the bounds go down apart.
  induction bound generalizing bound' with
  | zero => exact fun _ _ _ _ _ hbound _ ↦ absurd hbound (Nat.not_lt_zero _)
  | succ bound ih =>
    intro scope c s k hs hbound hbound'
    have hpos := Nat.exists_eq_add_one_of_ne_zero (Nat.ne_zero_of_lt hbound')
    by_cases htext : ∃ d rest, k.rest = d :: rest ∧ isMark d = false
    · obtain ⟨d, rest, hrest, hd⟩ := htext
      exact NodesAgree.text ih hs hrest hd hbound hbound'
    obtain ⟨bound', rfl⟩ := hpos
    cases hfront : Parser.front mode k.rest with
    | finish =>
      have hrest := Parser.front_eq_finish_iff.mp hfront
      have hpieces :
          Parser.pieces mode (Parser.closes mode) (bound' + 1) scope k = .ok ([], k) := by
        unfold Parser.pieces
        rw [hfront]
      rw [nodes_of_stop (round_of_nil hs hrest), hpieces]
      exact .ok c.before_nil.symm hs
    | char d width tail =>
      obtain ⟨unit, hunit, hsplit, _⟩ := Parser.front_eq_char_iff.mp hfront
      obtain ⟨m, unit, rfl⟩ := List.exists_cons_of_ne_nil hunit.ne_nil
      have hm : isMark m = true := by
        by_contra hm
        exact htext ⟨m, unit ++ tail, hsplit, Bool.eq_false_iff.mpr hm⟩
      exact (ih bound').char hs hsplit hm hfront hbound hbound'
    | opening rest => exact (ih bound').opening hs hfront hbound hbound'
    | closing =>
      obtain ⟨hroot, hformat⟩ := round_of_closing hs hfront
      cases scope with
      | root =>
        rw [nodes_of_error hroot]
        unfold Parser.pieces
        rw [hfront]
        exact .malformed _
      | format =>
        rw [nodes_of_stop hformat]
        unfold Parser.pieces
        rw [hfront]
        exact .ok c.before_nil.symm hs
    | badEscape escaped =>
      rw [nodes_of_error (round_of_badEscape hs hfront)]
      unfold Parser.pieces
      rw [hfront]
      exact .malformed _

end

/-! ## Whole texts -/

/-- For every text, the reader of tokens gives what the reader of characters does. -/
theorem parse_eq (mode : EscapeMode) (source : String) :
    parse mode source = (Template.parse mode source).mapError .malformed := by
  have hs := State.at_ofString source
  have hbound : (State.ofString source).left < source.utf8ByteSize + 1 := by
    rw [hs.left, ← byteWidth_toList]
    exact Nat.lt_succ_self _
  have hagrees := nodesAgree source.toList mode (source.utf8ByteSize + 1)
    (source.toList.length + 1) .root {} _ _ hs hbound (Nat.lt_succ_self _)
  have hpieces : Parser.pieces mode (Parser.closes mode) (source.toList.length + 1) .root
      (.ofString source) = Parser.piecesOf mode (Parser.closes mode) source := rfl
  rw [hpieces] at hagrees
  rw [parse, Template.parse]
  generalize nodes source.toList mode (source.utf8ByteSize + 1) .root {} (.ofString source) = r
    at hagrees ⊢
  generalize hread : Parser.piecesOf mode (Parser.closes mode) source = r' at hagrees
  cases hagrees with
  | ok ht _ =>
    rw [Parser.parseWith_eq_ok_iff.mpr ⟨_, _, hread, rfl⟩, ht]
    rfl
  | malformed e =>
    rw [Parser.parseWith_eq_error_iff.mpr hread]
    rfl

/-- **Reading comes to an end.** For every text and in both modes, the reader of tokens stops with
no defect: every round of its loops and every placeholder leaves less of the text, its recursion
stays under a bound of the bytes of the text and one more, and no token is missing or empty where
one is expected. What it gives is what the reader of characters gives, which does not meet that
bound either. -/
theorem parse_total (mode : EscapeMode) (source : String) :
    (∀ d, parse mode source ≠ .error (.defect d)) ∧
      parse mode source = (Template.parse mode source).mapError .malformed ∧
      Parser.pieces mode (Parser.closes mode) (source.utf8ByteSize + 1) .root (.ofString source) ≠
        .error .exhausted := by
  refine ⟨fun d hd ↦ ?_, parse_eq mode source, fun h ↦ ?_⟩
  · rw [parse_eq] at hd
    cases hparse : Template.parse mode source <;> rw [hparse] at hd <;> cases hd
  · have hlength := length_le_byteWidth source.toList
    rw [byteWidth_toList] at hlength
    have hprogress : Parser.Progress source.toList.length
        (Parser.pieces mode (Parser.closes mode) (source.utf8ByteSize + 1) .root
          (.ofString source)) := Parser.pieces_progress (Nat.lt_succ_of_le hlength)
    rw [h] at hprogress
    exact hprogress

/-- An escape takes the first letter of a text, and what is left of the text joins the literal. -/
example : parse .backslash "\\nab\\\\" = .ok [.literal ⟨"\nab\\", ⟨0, 6⟩⟩] := rfl

end TokenReader

end TextTemplate
