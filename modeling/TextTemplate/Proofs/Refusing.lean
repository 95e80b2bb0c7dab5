import TextTemplate.Proofs.Reading

/-!
# What reading refuses

The derivations of `Reads` are the texts that the reader accepts. Those of `Refuses` are the texts
that it does not accept, each with the error that it stops at: whatever stands before the error has
been read, and the last step says what is wrong behind it. `refuses_of_pieces` gives such a
derivation for every error of the reader, so whatever holds of an error and of the text before it is
an induction over `Refuses`.
-/

namespace TextTemplate

namespace Parser

/-- A sequence of readers stops in the first of them or behind it. -/
theorem error_of_bind {α β : Type} {r : Except Halt α} {f : α → Except Halt β} {h : Halt}
    (hbind : r >>= f = .error h) : r = .error h ∨ ∃ a, r = .ok a ∧ f a = .error h := by
  cases r with
  | error h' =>
    have herror : (.error h' : Except Halt β) = .error h := hbind
    cases herror
    exact Or.inl rfl
  | ok a => exact Or.inr ⟨a, rfl, hbind⟩

theorem pure_ne_error {α : Type} {a : α} {h : Halt} : (pure a : Except Halt α) ≠ .error h := nofun

/-! ## The parts of a placeholder -/

/-- A path with a segment that is none. -/
inductive RefusesPath (opening : Nat) : Bool → Cursor → SyntaxError → Prop
  | finish {leading : Bool} {k : Cursor} : k.rest = [] →
      RefusesPath opening leading k ⟨.unclosedPlaceholder, ⟨opening, opening + 1⟩⟩
  | unexpected {leading : Bool} {k : Cursor} {c : Char} {rest : List Char} : k.rest = c :: rest →
      c = '{' ∨ c = '\\' →
      RefusesPath opening leading k ⟨.unexpectedChar c, ⟨k.offset, k.offset + 1⟩⟩
  | noPath {k : Cursor} {c : Char} {rest : List Char} : k.rest = c :: rest →
      c = '}' ∨ c = ':' ∨ c = ',' →
      RefusesPath opening true k ⟨.emptySelector, ⟨opening, k.offset + 1⟩⟩
  | noSegment {leading : Bool} {k : Cursor} {c : Char} {rest : List Char} : k.rest = c :: rest →
      c = '.' ∨ leading = false ∧ (c = '}' ∨ c = ':' ∨ c = ',') →
      RefusesPath opening leading k ⟨.emptySegment, ⟨k.offset, k.offset + 1⟩⟩
  | invalid {leading : Bool} {k next : Cursor} {text : List Char} {n : Nat} {c : Char} :
      k.Passes text next → (∀ d ∈ text, isMark d = false) → firstInvalid? text = some (n, c) →
      RefusesPath opening leading k
        ⟨.invalidSelectorChar c, ⟨k.offset + n, k.offset + n + c.utf8Size⟩⟩
  | dot {leading : Bool} {k mid : Cursor} {s : Selector} {rest : List Char} {e : SyntaxError} :
      ReadsSegment leading k s mid → mid.rest = '.' :: rest →
      RefusesPath opening false ⟨mid.offset + 1, rest⟩ e → RefusesPath opening leading k e

/-- A comma without a number behind it. -/
inductive RefusesWidth : Cursor → SyntaxError → Prop
  | missing {k : Cursor} {rest : List Char} : k.rest = ',' :: rest →
      RefusesWidth k ⟨.invalidAlignment "", ⟨k.offset, k.offset + 1⟩⟩
  | invalid {k next : Cursor} {text : List Char} : k.Passes (',' :: text) next → text ≠ [] →
      (∀ c ∈ text, isMark c = false) →
      RefusesWidth k ⟨.invalidAlignment (String.ofList text), ⟨k.offset + 1, next.offset⟩⟩

/-! ## Derivations -/

section

variable (mode : EscapeMode) (closes : List Char → Bool)

/-- The error of an opening brace that nothing closes. -/
def unclosedAt (k : Cursor) : SyntaxError := ⟨.unclosedPlaceholder, ⟨k.offset, k.offset + 1⟩⟩

/-- Literal text and placeholders up to something that is neither. -/
inductive Refuses : Scope → Cursor → SyntaxError → Prop
  | badEscape {scope : Scope} {k : Cursor} {escaped : Option Char} :
      front mode k.rest = .badEscape escaped →
      Refuses scope k ⟨.invalidEscape escaped,
        ⟨k.offset, k.offset + (1 + (escaped.map Char.utf8Size).getD 0)⟩⟩
  | close {k : Cursor} : front mode k.rest = .closing →
      Refuses .root k ⟨.unexpectedClose, ⟨k.offset, k.offset + 1⟩⟩
  | ahead {scope : Scope} {k : Cursor} {rest : List Char} : front mode k.rest = .opening rest →
      closes rest = false → Refuses scope k (unclosedAt k)
  | path {scope : Scope} {k : Cursor} {rest : List Char} {e : SyntaxError} :
      front mode k.rest = .opening rest → closes rest = true →
      RefusesPath k.offset true ⟨k.offset + 1, rest⟩ e → Refuses scope k e
  | width {scope : Scope} {k mid : Cursor} {rest : List Char} {selectors : List Selector}
      {e : SyntaxError} : front mode k.rest = .opening rest → closes rest = true →
      ReadsPath true ⟨k.offset + 1, rest⟩ selectors mid → RefusesWidth mid e → Refuses scope k e
  | stray {scope : Scope} {k mid : Cursor} {selectors : List Selector} {width : Option Int32}
      {c : Char} {rest : List Char} : ReadsHead mode closes k selectors width mid →
      mid.rest = c :: rest → c ≠ ':' → c ≠ '}' →
      Refuses scope k ⟨.unexpectedChar c, ⟨mid.offset, mid.offset + c.utf8Size⟩⟩
  | bareEnd {scope : Scope} {k mid : Cursor} {selectors : List Selector} {width : Option Int32} :
      ReadsHead mode closes k selectors width mid → mid.rest = [] → Refuses scope k (unclosedAt k)
  | specifier {scope : Scope} {k mid : Cursor} {body : List Char} {selectors : List Selector}
      {width : Option Int32} {e : SyntaxError} : ReadsHead mode closes k selectors width mid →
      mid.rest = ':' :: body → Refuses .format ⟨mid.offset + 1, body⟩ e → Refuses scope k e
  | specifierEnd {scope : Scope} {k mid stop : Cursor} {body : List Char}
      {selectors : List Selector} {width : Option Int32} {qs : List Piece} :
      ReadsHead mode closes k selectors width mid → mid.rest = ':' :: body →
      Reads mode closes .format ⟨mid.offset + 1, body⟩ qs stop → stop.rest = [] →
      Refuses scope k (unclosedAt k)
  | char {scope : Scope} {k mid : Cursor} {unit : List Char} {c : Char} {e : SyntaxError} :
      Spelling mode unit c → k.Passes unit mid → Refuses scope mid e → Refuses scope k e
  | bare {scope : Scope} {k mid : Cursor} {rest : List Char} {selectors : List Selector}
      {width : Option Int32} {e : SyntaxError} : ReadsHead mode closes k selectors width mid →
      mid.rest = '}' :: rest → Refuses scope ⟨mid.offset + 1, rest⟩ e → Refuses scope k e
  | formatted {scope : Scope} {k mid stop : Cursor} {body rest : List Char}
      {selectors : List Selector} {width : Option Int32} {qs : List Piece} {e : SyntaxError} :
      ReadsHead mode closes k selectors width mid → mid.rest = ':' :: body →
      Reads mode closes .format ⟨mid.offset + 1, body⟩ qs stop → stop.rest = '}' :: rest →
      Refuses scope ⟨stop.offset + 1, rest⟩ e → Refuses scope k e

end

/-! ## The reader stops only where there is a derivation -/

theorem refusesPath_of_missingSegment {opening : Nat} {leading : Bool} {k : Cursor} {c : Char}
    {rest : List Char} {e : SyntaxError} (hrest : k.rest = c :: rest) (hc : isMark c = true)
    (h : (missingSegment opening k.offset leading c : Except Halt (Selector × Cursor)) =
      .error (.malformed e)) : RefusesPath opening leading k e := by
  have hmark : c = '{' ∨ c = '}' ∨ c = ':' ∨ c = '.' ∨ c = ',' ∨ c = '\\' := by
    simpa using mem_of_isMark hc
  unfold missingSegment at h
  split at h
  · rename_i hbad
    cases h
    exact .unexpected hrest (by simpa using hbad)
  · rename_i hbad
    have hother : c = '}' ∨ c = ':' ∨ c = '.' ∨ c = ',' := by
      simp only [Bool.or_eq_true, decide_eq_true_eq, not_or] at hbad
      grind
    split at h
    · rename_i hfirst
      rw [Bool.and_eq_true, bne_iff_ne] at hfirst
      cases h
      obtain ⟨rfl, hdot⟩ := hfirst
      exact .noPath hrest (by grind)
    · rename_i hfirst
      rw [Bool.and_eq_true, bne_iff_ne, not_and_or, not_not, Bool.not_eq_true] at hfirst
      cases h
      exact .noSegment hrest (by grind)

theorem refusesPath_of_segment {opening : Nat} {leading : Bool} {k : Cursor} {e : SyntaxError}
    (h : segment opening leading k = .error (.malformed e)) : RefusesPath opening leading k e := by
  unfold segment at h
  split at h
  · rename_i hrest
    cases h
    exact .finish hrest
  · rename_i c cs hrest
    split at h
    · rename_i hc
      exact refusesPath_of_missingSegment hrest hc h
    · simp only at h
      split at h
      · rename_i n d hinvalid
        cases h
        exact .invalid (run_passes k) (fun c hc ↦ isMark_of_mem_run hc) hinvalid
      · exact absurd h nofun

theorem refusesPath_of_path {opening bound : Nat} {leading : Bool} {k : Cursor} {e : SyntaxError}
    (h : path opening bound leading k = .error (.malformed e)) :
    RefusesPath opening leading k e := by
  induction bound generalizing leading k with
  | zero => exact absurd h nofun
  | succ bound ih =>
    rw [path] at h
    rcases error_of_bind h with h | ⟨⟨s, mid⟩, hs, h⟩
    · exact refusesPath_of_segment h
    · simp only at h
      split at h
      · rename_i rest hrest
        rcases error_of_bind h with h | ⟨⟨ss, next⟩, _, h⟩
        · exact .dot (segment_eq_ok_iff.mp hs) hrest (ih h)
        · exact absurd h pure_ne_error
      · exact absurd h pure_ne_error

theorem refusesWidth_of_alignment {k : Cursor} {e : SyntaxError}
    (h : alignment k = .error (.malformed e)) : RefusesWidth k e := by
  unfold alignment at h
  split at h
  · rename_i rest hrest
    simp only at h
    split at h
    · cases h
      exact .missing hrest
    · rename_i hne
      split at h
      · exact absurd h nofun
      · cases h
        refine .invalid ((Cursor.Passes.mark hrest rfl).trans (run_passes _)) ?_
          fun c hc ↦ isMark_of_mem_run hc
        simpa using hne
  · exact absurd h nofun

/-- A specifier ends where the text does or at a closing brace. -/
theorem Reads.ends {mode : EscapeMode} {closes : List Char → Bool} {scope : Scope}
    {k next : Cursor} {ps : List Piece} (h : Reads mode closes scope k ps next) :
    next.rest = [] ∨ ∃ rest, next.rest = '}' :: rest := by
  induction h with
  | finish hk => exact Or.inl hk
  | close hk =>
    obtain ⟨rest, hrest, _⟩ := front_eq_closing_iff.mp hk
    exact Or.inr ⟨rest, hrest⟩
  | char _ _ _ ih => exact ih
  | bare _ _ _ ih => exact ih
  | formatted _ _ _ _ _ _ ih => exact ih

section

variable {mode : EscapeMode} {closes : List Char → Bool}

/-- A placeholder is refused in its path, in its width, in its specifier, or behind them. -/
theorem refuses_of_placeholder {bound : Nat} {scope : Scope} {k : Cursor} {rest : List Char}
    {e : SyntaxError} (hfront : front mode k.rest = .opening rest) (hcloses : closes rest = true)
    (hspecifier : ∀ {next : Cursor} {e : SyntaxError},
      pieces mode closes bound .format next = .error (.malformed e) →
        Refuses mode closes .format next e)
    (h : placeholder bound (pieces mode closes bound .format) k rest = .error (.malformed e)) :
    Refuses mode closes scope k e := by
  rw [placeholder] at h
  rcases error_of_bind h with h | ⟨⟨selectors, head⟩, hpath, h⟩
  · exact .path hfront hcloses (refusesPath_of_path h)
  have hpath := readsPath_of_path hpath
  rcases error_of_bind h with h | ⟨⟨width, mid⟩, hwidth, h⟩
  · exact .width hfront hcloses hpath (refusesWidth_of_alignment h)
  have hhead : ReadsHead mode closes k selectors width mid :=
    .mk hfront hcloses hpath (alignment_eq_ok_iff.mp hwidth)
  rcases error_of_bind h with h | ⟨⟨format', stop⟩, hformat, h⟩
  · unfold format at h
    split at h
    · rename_i body hbody
      rcases error_of_bind h with h | ⟨_, _, h⟩
      · exact .specifier hhead hbody (hspecifier h)
      · exact absurd h pure_ne_error
    · exact absurd h pure_ne_error
  unfold format at hformat
  split at hformat
  · rename_i body hbody
    obtain ⟨⟨qs, stop'⟩, hqs, hformat⟩ := ok_of_bind hformat
    cases hformat
    have hqs := reads_of_pieces hqs
    -- The specifier has taken everything up to a closing brace, so only the brace can be missing.
    rcases hqs.ends with hend | ⟨tail, hend⟩
    · simp only [hend] at h
      cases h
      exact .specifierEnd hhead hbody hqs hend
    · simp only [hend] at h
      exact absurd h pure_ne_error
  · rename_i hcolon
    cases hformat
    simp only at h
    split at h
    · exact absurd h pure_ne_error
    · rename_i c tail hclose hrest
      cases h
      refine .stray hhead hrest ?_ ?_
      · rintro rfl
        exact hcolon tail hrest
      · rintro rfl
        exact hclose rfl
    · rename_i hrest
      cases h
      exact .bareEnd hhead hrest

/-- **Every error has a derivation.** Where the reader stops, everything before was read, and what
stands there is what the error says. -/
theorem refuses_of_pieces {bound : Nat} {scope : Scope} {k : Cursor} {e : SyntaxError}
    (h : pieces mode closes bound scope k = .error (.malformed e)) :
    Refuses mode closes scope k e := by
  induction bound generalizing scope k e with
  | zero => exact absurd h nofun
  | succ bound ih =>
    unfold pieces at h
    split at h
    · exact absurd h pure_ne_error
    · rename_i c width rest hfront
      obtain ⟨unit, hunit, hrest, rfl⟩ := front_eq_char_iff.mp hfront
      rcases error_of_bind h with h | ⟨_, _, h⟩
      · exact .char hunit ⟨hrest, rfl⟩ (ih h)
      · exact absurd h pure_ne_error
    · rename_i rest hfront
      split at h
      · rename_i hcloses
        rcases error_of_bind h with h | ⟨⟨p, mid⟩, hp, h⟩
        · exact refuses_of_placeholder hfront hcloses ih h
        · rcases error_of_bind h with h | ⟨_, _, h⟩
          · obtain ⟨selectors, width, head, hhead, hp⟩ := placeholder_cases hfront hcloses hp
            rcases hp with ⟨tail, htail, rfl, _⟩ | ⟨body, qs, stop, tail, hbody, hqs, htail, rfl, _⟩
            · exact .bare hhead htail (ih h)
            · exact .formatted hhead hbody (reads_of_pieces hqs) htail (ih h)
          · exact absurd h pure_ne_error
      · rename_i hcloses
        cases h
        exact .ahead hfront (by simpa using hcloses)
    · rename_i hfront
      split at h
      · cases h
        exact .close hfront
      · exact absurd h pure_ne_error
    · rename_i escaped hfront
      cases h
      exact .badEscape hfront

end

end Parser

/-- A text that is no template has a derivation of its error. -/
theorem Template.refuses_of_parse {mode : EscapeMode} {source : String} {e : SyntaxError}
    (h : Template.parse mode source = .error e) :
    Parser.Refuses mode (Parser.closes mode) .root (.ofString source) e :=
  Parser.refuses_of_pieces (Parser.parseWith_eq_error_iff.mp h)

end TextTemplate
