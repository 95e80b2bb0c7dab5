import TextTemplate.Proofs.DoubledBraces
import TextTemplate.Proofs.Evidence
import TextTemplate.Proofs.TokenReader

/-!
# Where a reader of tokens is

A state of the reader of tokens is at a place of the text if the tokens it has not consumed are
those of the text behind the place. This is all that is known of a state: the index and the tokens
that were consumed do not matter, and an escape that puts back the rest of a text leads to a state
which is at a place like any other, since what it puts back is the text that would be lexed there.
-/

namespace TextTemplate

theorem Cursor.Passes.byteWidth_rest {k next : Cursor} {text : List Char}
    (h : k.Passes text next) : byteWidth k.rest = byteWidth text + byteWidth next.rest := by
  rw [h.rest, byteWidth_append]

/-- The longest run here is the first character and the run behind it. -/
theorem Parser.run_cons {k : Cursor} {c : Char} {rest : List Char} (hrest : k.rest = c :: rest)
    (hc : isMark c = false) :
    ∃ more, k.run.1 = c :: more ∧ rest = more ++ k.run.2.rest ∧
      k.run.2.offset = k.offset + c.utf8Size + byteWidth more := by
  have hpass := run_passes k
  obtain ⟨d, more, hrun⟩ := List.exists_cons_of_ne_nil (run_ne_nil hrest hc)
  have hcons := hpass.rest
  have hoffset := hpass.offset
  rw [hrun, hrest, List.cons_append] at hcons
  obtain ⟨rfl, hmore⟩ := List.cons.inj hcons
  rw [hrun, byteWidth_cons, ← Nat.add_assoc] at hoffset
  exact ⟨more, hrun, hmore, hoffset⟩

/-- What the tokens of a text are written with is the text. -/
theorem Token.Lexes.flatMap_chars {k : Cursor} {tokens : List (Token × Span)}
    (h : Lexes k tokens) : (tokens.flatMap fun x ↦ x.1.chars) = k.rest := by
  induction h with
  | finish hk => exact hk.symm
  | mark _ hpass _ ih => rw [List.flatMap_cons, ih, hpass.rest, chars]
  | text _ _ hpass _ _ ih =>
    rw [List.flatMap_cons, ih, hpass.rest, chars, String.toList_ofList]

namespace TokenReader

namespace State

theorem peek?_eq (s : State) : s.peek? = s.unread.head? := List.head?_drop.symm

theorem token?_eq (s : State) (n : Nat) : s.token? n = (s.unread.drop n).head?.map Prod.fst := by
  rw [token?, unread, List.drop_drop, List.head?_drop]

theorem unread_skip (s : State) (n : Nat) : (s.skip n).unread = s.unread.drop n := by
  rw [unread, unread, skip, List.drop_drop]

theorem unread_replace {s : State} {x : Token × Span} {rest : List (Token × Span)}
    (h : s.unread = x :: rest) (y : Token × Span) : (s.replace y).unread = y :: rest := by
  have hset : (s.tokens.set s.index y).drop s.index = (s.tokens.drop s.index).set 0 y := by
    rw [List.drop_set, if_neg (Nat.lt_irrefl _), Nat.sub_self]
  have hdrop : s.tokens.drop s.index = x :: rest := h
  rw [unread, replace, hset, hdrop, List.set_cons_zero]

/-- What a state has not consumed are the tokens of the text behind a place. -/
structure At (source : List Char) (s : State) (k : Cursor) : Prop where
  unread : s.unread = Token.ofChars k.offset k.rest
  within : k.Within source

section

variable {source : List Char} {s : State} {k : Cursor}

theorem at_ofString (source : String) : (ofString source).At source.toList (.ofString source) :=
  ⟨rfl, Cursor.within_ofString source⟩

theorem At.lexes (h : s.At source k) : Token.Lexes k s.unread := by
  rw [h.unread]
  exact Token.lexes_ofChars k

/-- What is left is what stands behind the place. -/
theorem At.left (h : s.At source k) : s.left = byteWidth k.rest := by
  rw [State.left, h.lexes.flatMap_chars]

theorem At.peek_finish (h : s.At source k) (hrest : k.rest = []) : s.peek? = none := by
  rw [peek?_eq, h.unread, hrest]
  rfl

theorem At.skip_of_passes {x : Token × Span} {text : List Char} {next : Cursor}
    (h : s.At source k) (hpass : k.Passes text next)
    (hunread : Token.ofChars k.offset k.rest = x :: Token.ofChars next.offset next.rest) :
    s.peek? = some x ∧ (s.skip 1).At source next := by
  rw [← h.unread] at hunread
  refine ⟨?_, ?_, hpass.within h.within⟩
  · rw [peek?_eq, hunread, List.head?_cons]
  · rw [unread_skip, hunread, List.drop_one, List.tail_cons]

/-- A mark is the next token, and behind the token is the place behind the mark. -/
theorem At.mark {c : Char} {rest : List Char} (h : s.At source k) (hrest : k.rest = c :: rest)
    (hc : isMark c = true) :
    s.peek? = some (.mark c, ⟨k.offset, k.offset + 1⟩) ∧
      (s.skip 1).At source ⟨k.offset + 1, rest⟩ :=
  h.skip_of_passes (Cursor.Passes.mark hrest (Token.utf8Size_of_isMark hc))
    (by rw [hrest, Token.ofChars_mark hc])

/-- Where no mark stands, the next token is the longest run of other characters. -/
theorem At.text {c : Char} {rest : List Char} (h : s.At source k) (hrest : k.rest = c :: rest)
    (hc : isMark c = false) :
    s.peek? = some (.text (String.ofList k.run.1), ⟨k.offset, k.run.2.offset⟩) ∧
      (s.skip 1).At source k.run.2 :=
  h.skip_of_passes (Parser.run_passes k) (Token.ofChars_run hrest hc)

/-- Where the rest of a text is put back behind its first character, the next token is the one that
would be lexed there. -/
theorem At.replace {c : Char} {rest more : List Char} (h : s.At source k)
    (hrest : k.rest = c :: rest) (hc : isMark c = false) (hrun : k.run.1 = c :: more)
    (hne : more ≠ []) :
    (s.replace (.text (String.ofList more), ⟨k.offset + c.utf8Size, k.run.2.offset⟩)).At source
      ⟨k.offset + c.utf8Size, rest⟩ := by
  obtain ⟨more', hrun', rfl, hstop⟩ := Parser.run_cons hrest hc
  obtain rfl : more' = more := (List.cons.inj (hrun'.symm.trans hrun)).2
  have hplain : ∀ d ∈ more', isMark d = false := fun d hd ↦
    Parser.isMark_of_mem_run (hrun ▸ List.mem_cons_of_mem c hd)
  have hunread := h.unread
  rw [Token.ofChars_run hrest hc] at hunread
  have hpass : k.Passes [c] ⟨k.offset + c.utf8Size, more' ++ k.run.2.rest⟩ := ⟨hrest, rfl⟩
  refine ⟨?_, hpass.within h.within⟩
  rw [unread_replace hunread, Token.ofChars_append hne hplain (Parser.atMark_run k), hstop]

/-- The first token is a mark exactly if the text begins with it. -/
theorem head_ofChars_eq_mark_iff {offset : Nat} {cs : List Char} {c : Char}
    (hc : isMark c = true) :
    (Token.ofChars offset cs).head?.map Prod.fst = some (.mark c) ↔ ∃ rest, cs = c :: rest := by
  constructor
  · intro h
    have hlexes := Token.lexes_ofChars ⟨offset, cs⟩
    simp only at hlexes
    generalize Token.ofChars offset cs = tokens at h hlexes
    cases hlexes with
    | finish => exact absurd h nofun
    | mark _ hpass _ =>
      cases h
      exact ⟨_, hpass.rest⟩
    | text => exact absurd h nofun
  · rintro ⟨rest, rfl⟩
    rw [Token.ofChars_mark hc]
    rfl

theorem At.token_eq_mark_iff {c : Char} (h : s.At source k) (hc : isMark c = true) :
    s.token? 0 = some (.mark c) ↔ ∃ rest, k.rest = c :: rest := by
  rw [token?_eq, List.drop_zero, h.unread, head_ofChars_eq_mark_iff hc]

/-- The token behind a mark is a mark exactly if the text goes on with it. -/
theorem At.second_eq_mark_iff {c d : Char} {rest : List Char} (h : s.At source k)
    (hrest : k.rest = c :: rest) (hc : isMark c = true) (hd : isMark d = true) :
    s.token? 1 = some (.mark d) ↔ ∃ tail, rest = d :: tail := by
  rw [token?_eq, h.unread, hrest, Token.ofChars_mark hc, List.drop_one, List.tail_cons,
    head_ofChars_eq_mark_iff hd]

theorem At.peek_ne_mark {c : Char} (h : s.At source k) (hc : isMark c = true)
    (hrest : ¬∃ rest, k.rest = c :: rest) (span : Span) : s.peek? ≠ some (.mark c, span) := by
  intro hpeek
  refine hrest ((h.token_eq_mark_iff hc).mp ?_)
  have htoken : s.token? 0 = s.peek?.map Prod.fst := rfl
  rw [htoken, hpeek]
  rfl

/-- Where the next token begins, or the text ends, is the offset of the place. -/
theorem At.stop (h : s.At source k) :
    (s.peek?.map fun x ↦ x.2.start).getD (byteWidth source) = k.offset := by
  rw [peek?_eq]
  have hlexes := h.lexes
  generalize s.unread = tokens at hlexes
  cases hlexes with
  | finish hrest =>
    obtain ⟨before, hsource, hoffset⟩ := h.within
    rw [hsource, hrest, List.append_nil, hoffset]
    rfl
  | mark => rfl
  | text => rfl

end

end State

/-! ## Going on -/

section

variable {source : List Char} {α : Type}

theorem onward_of_lt {before after : State} (h : after.left < before.left) (r : Except Halt α) :
    onward before after r = r := if_pos h

/-- What is left and what was passed over make up what was left. -/
theorem left_eq_add {s s' : State} {k k' : Cursor} {text : List Char} (hs : s.At source k)
    (hs' : s'.At source k') (hpass : k.Passes text k') : s.left = byteWidth text + s'.left := by
  rw [hs.left, hs'.left, hpass.byteWidth_rest]

theorem left_lt {s s' : State} {k k' : Cursor} {text : List Char} (hs : s.At source k)
    (hs' : s'.At source k') (hpass : k.Passes text k') (hne : text ≠ []) : s'.left < s.left := by
  rw [left_eq_add hs hs' hpass]
  exact Nat.lt_add_of_pos_left (byteWidth_pos hne)

end

/-! ## Looking ahead -/

/-- Over tokens, the scan that looks ahead counts the same braces as over characters. -/
theorem closes_of_lexes_doubled {k : Cursor} {tokens : List (Token × Span)}
    (h : Token.Lexes k tokens) (depth : Nat) :
    closes .doubledBrace false depth tokens = Parser.closesDoubled depth k.rest := by
  induction h generalizing depth with
  | finish hk =>
    rw [hk]
    cases depth <;> rfl
  | @mark k next c tokens hc hpass _ ih =>
    rw [hpass.rest, List.singleton_append]
    rcases Token.eq_of_isMark hc with rfl | rfl | rfl | rfl | rfl | rfl
    · exact ih (depth + 1)
    · cases depth with
      | zero => rfl
      | succ depth => exact ih depth
    all_goals cases depth <;> exact ih _
  | @text k next text tokens _ htext hpass _ _ ih =>
    rw [hpass.rest, Parser.closesDoubled_append (Parser.isPlain_of_isMark htext).isBrace]
    cases depth <;> exact ih _

/-- Where a backslash escapes, the token behind it is passed over; of a text that token is, the
characters behind the first do not count. -/
theorem closes_of_lexes_backslash {k : Cursor} {tokens : List (Token × Span)}
    (h : Token.Lexes k tokens) (depth : Nat) :
    closes .backslash false depth tokens = Parser.closesBackslash depth k.rest ∧
      closes .backslash true depth tokens = Parser.closesBackslash depth k.rest.tail := by
  induction h generalizing depth with
  | finish hk =>
    rw [hk]
    cases depth <;> exact ⟨rfl, rfl⟩
  | @mark k next c tokens hc hpass _ ih =>
    rw [hpass.rest, List.singleton_append, List.tail_cons]
    refine ⟨?_, (ih depth).1⟩
    rcases Token.eq_of_isMark hc with rfl | rfl | rfl | rfl | rfl | rfl
    · exact (ih (depth + 1)).1
    · cases depth with
      | zero => rfl
      | succ depth => exact (ih depth).1
    · cases depth <;> exact (ih _).1
    · cases depth <;> exact (ih _).1
    · cases depth <;> exact (ih _).1
    · have hskip : closes .backslash false depth ((.mark '\\', ⟨k.offset, next.offset⟩) :: tokens) =
          closes .backslash true depth tokens := by cases depth <;> rfl
      rw [hskip, (ih depth).2]
      cases next.rest with
      | nil => cases depth <;> rfl
      | cons d rest => cases depth <;> rfl
  | @text k next text tokens hne htext hpass _ _ ih =>
    have hplain := Parser.isPlain_of_isMark htext
    obtain ⟨c, text, rfl⟩ := List.exists_cons_of_ne_nil hne
    rw [hpass.rest, List.cons_append, List.tail_cons, ← List.cons_append,
      Parser.closesBackslash_append hplain,
      Parser.closesBackslash_append fun d hd ↦ hplain d (List.mem_cons_of_mem c hd)]
    cases depth <;> exact ⟨(ih _).1, (ih _).1⟩

theorem closes_of_at {source : List Char} {s : State} {k : Cursor} (h : s.At source k)
    (mode : EscapeMode) : closes mode false 0 s.unread = Parser.closes mode k.rest := by
  cases mode with
  | doubledBrace => exact closes_of_lexes_doubled h.lexes 0
  | backslash => exact (closes_of_lexes_backslash h.lexes 0).1

end TokenReader

end TextTemplate
