import TextTemplate.Proofs.LookAhead

/-!
# Where neither escape mode has an escape

The escape mode decides what the text at a place begins with, and how the scan that looks ahead
counts braces. The rest of the reader does not know of it. So two readers give the same if they
agree on these two questions at every place of the text, which is `ReadAlike`; whether the text is a
template, and what stands in it, does not matter.

A text without escapes of either mode is one on which the two modes agree. That there is none is a
property of the whole text, so it holds of what is left of the text at any place.
-/

namespace TextTemplate

/-- An escape of a mode stands in a text: a brace twice, or a backslash. -/
def HasEscape : EscapeMode → List Char → Prop
  | .doubledBrace, cs => ['{', '{'] <:+: cs ∨ ['}', '}'] <:+: cs
  | .backslash, cs => '\\' ∈ cs

theorem HasEscape.mono {mode : EscapeMode} {cs ds : List Char} (h : HasEscape mode cs)
    (hwithin : cs <:+: ds) : HasEscape mode ds := by
  cases mode with
  | doubledBrace => exact h.imp (·.trans hwithin) (·.trans hwithin)
  | backslash => exact hwithin.subset h

theorem Cursor.Passes.suffix {k next : Cursor} {text : List Char} (h : k.Passes text next) :
    next.rest <:+ k.rest := ⟨text, h.rest.symm⟩

namespace Parser

/-! ## Readers that agree at every place -/

/-- Two readers agree on what a text begins with, and on the scan that looks ahead, wherever they
are in it. -/
structure ReadAlike (mode mode' : EscapeMode) (closes closes' : List Char → Bool)
    (cs : List Char) : Prop where
  front : ∀ rest, rest <:+ cs → Parser.front mode rest = Parser.front mode' rest
  closes : ∀ rest, rest <:+ cs → closes rest = closes' rest

/-- Sequences that begin alike give the same if they do where they go on. -/
theorem bind_congr_of_ok {α β : Type} {r : Except Halt α} {f g : α → Except Halt β}
    (h : ∀ a, r = .ok a → f a = g a) : r >>= f = r >>= g := by
  cases r with
  | error e => rfl
  | ok a => exact h a rfl

theorem path_suffix {opening bound : Nat} {leading : Bool} {k next : Cursor} {ss : List Selector}
    (h : path opening bound leading k = .ok (ss, next)) : next.rest <:+ k.rest :=
  (readsPath_of_path h).passes.suffix

theorem alignment_suffix {k next : Cursor} {width : Option Int32}
    (h : alignment k = .ok (width, next)) : next.rest <:+ k.rest := by
  obtain ⟨_, _, hpass⟩ := (alignment_eq_ok_iff.mp h).passes
  exact hpass.suffix

theorem format_congr {specifier specifier' : Cursor → Except Halt (List Piece × Cursor)}
    {k : Cursor} (h : ∀ next : Cursor, next.rest <:+ k.rest → specifier next = specifier' next) :
    format specifier k = format specifier' k := by
  unfold format
  split
  · rename_i body hbody
    have hsuffix : body <:+ k.rest := hbody ▸ List.suffix_cons _ _
    simp only [h ⟨k.offset + 1, body⟩ hsuffix]
  · rfl

/-- A placeholder is read alike if its specifier is. -/
theorem placeholder_congr {bound : Nat}
    {specifier specifier' : Cursor → Except Halt (List Piece × Cursor)} {k : Cursor}
    {rest : List Char} (h : ∀ next : Cursor, next.rest <:+ rest → specifier next = specifier' next) :
    placeholder bound specifier k rest = placeholder bound specifier' k rest := by
  unfold placeholder
  refine bind_congr_of_ok fun (selectors, head) hpath ↦ ?_
  refine bind_congr_of_ok fun (width, mid) hwidth ↦ ?_
  have hmid : mid.rest <:+ rest := (alignment_suffix hwidth).trans (path_suffix hpath)
  simp only
  rw [format_congr fun next hnext ↦ h next (hnext.trans hmid)]

variable {mode mode' : EscapeMode} {closes closes' : List Char → Bool}

/-- A placeholder is passed over, from its opening brace to its closing one. -/
theorem placeholder_passes {bound bound' : Nat} {k next : Cursor} {rest : List Char}
    {p : Placeholder} (hfront : front mode k.rest = .opening rest) (hcloses : closes rest = true)
    (h : placeholder bound (pieces mode closes bound' .format) k rest = .ok (p, next)) :
    ∃ text, k.Passes text next := by
  obtain ⟨_, _, mid, hhead, hp⟩ := placeholder_cases hfront hcloses h
  obtain ⟨_, _, hpass⟩ := hhead.passes
  rcases hp with ⟨tail, htail, rfl, _⟩ | ⟨body, qs, stop, tail, hbody, hqs, htail, rfl, _⟩
  · exact ⟨_, hpass.trans (.mark htail rfl)⟩
  · obtain ⟨_, hspecifier⟩ := (reads_of_pieces hqs).passes
    have hformat := (Cursor.Passes.mark hbody rfl).trans hspecifier
    exact ⟨_, hpass.trans (hformat.trans (.mark htail rfl))⟩

/-- Behind a placeholder there is less of the text. -/
theorem placeholder_suffix {bound bound' : Nat} {k next : Cursor} {rest : List Char}
    {p : Placeholder} (hfront : front mode k.rest = .opening rest) (hcloses : closes rest = true)
    (h : placeholder bound (pieces mode closes bound' .format) k rest = .ok (p, next)) :
    next.rest <:+ k.rest := by
  obtain ⟨_, hpass⟩ := placeholder_passes hfront hcloses h
  exact hpass.suffix

theorem ReadAlike.of_suffix {cs rest : List Char} (h : ReadAlike mode mode' closes closes' cs)
    (hrest : rest <:+ cs) : ReadAlike mode mode' closes closes' rest :=
  ⟨fun rest' h' ↦ h.front rest' (h'.trans hrest), fun rest' h' ↦ h.closes rest' (h'.trans hrest)⟩

/-- Readers that agree at every place of a text read the same pieces, or stop at the same error. -/
theorem ReadAlike.pieces {bound : Nat} {scope : Scope} {k : Cursor}
    (h : ReadAlike mode mode' closes closes' k.rest) :
    Parser.pieces mode closes bound scope k = Parser.pieces mode' closes' bound scope k := by
  -- Specifiers are read under the same smaller bound as what follows, so both are covered by `ih`.
  induction bound generalizing scope k with
  | zero => rfl
  | succ bound ih =>
    unfold Parser.pieces
    rw [h.front _ List.suffix_rfl]
    cases hfront : Parser.front mode' k.rest with
    | finish => rfl
    | closing => rfl
    | badEscape escaped => rfl
    | char c width rest =>
      obtain ⟨unit, _, hrest, _⟩ := front_eq_char_iff.mp hfront
      have hsuffix : rest <:+ k.rest := ⟨unit, hrest.symm⟩
      have hpieces : ∀ stop, Parser.pieces mode closes bound scope ⟨stop, rest⟩ =
          Parser.pieces mode' closes' bound scope ⟨stop, rest⟩ := fun _ ↦ ih (h.of_suffix hsuffix)
      simp only [hpieces]
    | opening rest =>
      have hsuffix : rest <:+ k.rest :=
        (front_eq_opening_iff.mp hfront).1 ▸ List.suffix_cons _ _
      simp only [h.closes rest hsuffix]
      by_cases hcloses : closes' rest = true
      · rw [if_pos hcloses, if_pos hcloses, placeholder_congr fun next hnext ↦
          ih (h.of_suffix (hnext.trans hsuffix))]
        refine bind_congr_of_ok fun read hp ↦ ?_
        obtain ⟨p, next⟩ := read
        have hnext := placeholder_suffix hfront hcloses hp
        simp only [ih (h.of_suffix hnext)]
      · rw [if_neg hcloses, if_neg hcloses]

theorem ReadAlike.parseWith {source : String}
    (h : ReadAlike mode mode' closes closes' source.toList) :
    Parser.parseWith mode closes source = Parser.parseWith mode' closes' source := by
  have hpieces : piecesOf mode closes source = piecesOf mode' closes' source := h.pieces
  cases hparse : Parser.parseWith mode' closes' source with
  | ok t =>
    rw [parseWith_eq_ok_iff] at hparse ⊢
    rwa [hpieces]
  | error e =>
    rw [parseWith_eq_error_iff] at hparse ⊢
    rwa [hpieces]

/-! ## Texts without escapes -/

/-- Without a backslash the two scans count the same braces. -/
theorem closesDoubled_eq {cs : List Char} (h : ¬HasEscape .backslash cs) (depth : Nat) :
    closesDoubled depth cs = closesBackslash depth cs := by
  have hrest : ∀ {c : Char} {rest : List Char}, ¬HasEscape .backslash (c :: rest) →
      ¬HasEscape .backslash rest := fun h hrest ↦ h (List.mem_cons_of_mem _ hrest)
  fun_induction closesDoubled depth cs with
  | case1 => rfl
  | case2 depth rest ih => rw [closesBackslash_open, ih (hrest h)]
  | case3 => rfl
  | case4 depth rest ih => rw [closesBackslash_close, ih (hrest h)]
  | case5 depth c rest hopen hclose hcloses ih =>
    have hback : c ≠ '\\' := fun hc ↦ h (hc ▸ List.mem_cons_self)
    have hc : c ≠ '}' := by
      cases depth with
      | zero => exact hclose rfl
      | succ d => exact hcloses d rfl
    rw [closesBackslash_cons hopen hc hback, ih (hrest h)]

/-- A text without escapes begins with the same in both modes. -/
theorem frontDoubled_eq {cs : List Char} (hdoubled : ¬HasEscape .doubledBrace cs)
    (hback : ¬HasEscape .backslash cs) : frontDoubled cs = frontBackslash cs := by
  unfold frontDoubled
  split
  · rfl
  · rename_i rest
    exact absurd (Or.inl ⟨[], rest, rfl⟩) hdoubled
  · rename_i rest
    exact absurd (Or.inr ⟨[], rest, rfl⟩) hdoubled
  · rfl
  · rfl
  · rename_i c rest _ _ hopen hclose
    have hc : c ≠ '\\' := fun hc ↦ hback (hc ▸ List.mem_cons_self)
    simp [frontBackslash, hc]

theorem readAlike_of_not_hasEscape {cs : List Char} (h : ∀ mode, ¬HasEscape mode cs) :
    ReadAlike .doubledBrace .backslash (Parser.closes .doubledBrace) (Parser.closes .backslash)
      cs := by
  have hrest : ∀ {rest}, rest <:+ cs → ∀ mode, ¬HasEscape mode rest := fun hsuffix mode hescape ↦
    h mode (hescape.mono hsuffix.isInfix)
  exact ⟨fun rest hsuffix ↦ frontDoubled_eq (hrest hsuffix _) (hrest hsuffix _),
    fun rest hsuffix ↦ closesDoubled_eq (hrest hsuffix _) 0⟩

end Parser

/-- **The escape modes agree where neither has an escape.** A text without a backslash and without a
brace twice in a row is the same template in both modes, with the same spans, or it is none in
either, for the same reason and at the same place. -/
theorem Template.parse_eq_of_not_hasEscape {source : String}
    (h : ∀ mode, ¬HasEscape mode source.toList) :
    Template.parse .doubledBrace source = Template.parse .backslash source :=
  (Parser.readAlike_of_not_hasEscape h).parseWith

/-- In one text every brace has its partner, and in the other the outer placeholder is left open. -/
theorem Template.parse_eq_of_not_hasEscape_nestedSamples :
    (∀ mode, ¬HasEscape mode "\x7bb:\x7bc\x7d-\x7d".toList) ∧
      (∀ mode, ¬HasEscape mode "\x7bb:\x7bc\x7d-".toList) ∧
      parse .doubledBrace "\x7bb:\x7bc\x7d-\x7d" = parse .backslash "\x7bb:\x7bc\x7d-\x7d" ∧
      (parse .backslash "\x7bb:\x7bc\x7d-\x7d").isOk = true ∧
      parse .doubledBrace "\x7bb:\x7bc\x7d-" = .error ⟨.unclosedPlaceholder, ⟨0, 1⟩⟩ := by
  have hclosed : ∀ mode, ¬HasEscape mode "\x7bb:\x7bc\x7d-\x7d".toList := by
    intro mode
    cases mode <;> simp [HasEscape, List.infix_cons_iff]
  have hunclosed : ∀ mode, ¬HasEscape mode "\x7bb:\x7bc\x7d-".toList := by
    intro mode
    cases mode <;> simp [HasEscape, List.infix_cons_iff]
  refine ⟨hclosed, hunclosed, parse_eq_of_not_hasEscape hclosed, rfl, ?_⟩
  rw [parse_eq_of_not_hasEscape hunclosed]
  rfl

end TextTemplate
