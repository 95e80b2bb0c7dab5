import Mathlib.Data.List.TakeWhile
import TextTemplate.Template.Parser

/-!
# What reading accepts

The reader is a function with a bound; the derivations here are the texts that it accepts, with no
bound in them. `pieces_eq_ok_iff` says that the two agree, so whatever holds of every template that
a text can be is an induction over `Reads`, and a text is shown to be a template by giving a
derivation.

## Places

A derivation goes from place to place. `Cursor.Passes` says what lies between two places, both as
characters and as a distance in bytes, and every rule moves by it.
-/

namespace TextTemplate

/-! ## Places -/

/-- From one place to a later one, reading passes over a text. -/
structure Cursor.Passes (k : Cursor) (text : List Char) (next : Cursor) : Prop where
  rest : k.rest = text ++ next.rest
  offset : next.offset = k.offset + byteWidth text

namespace Cursor

theorem Passes.refl (k : Cursor) : k.Passes [] k := ⟨rfl, rfl⟩

theorem Passes.trans {k k' k'' : Cursor} {text text' : List Char} (h : k.Passes text k')
    (h' : k'.Passes text' k'') : k.Passes (text ++ text') k'' := by
  constructor
  · rw [h.rest, h'.rest, List.append_assoc]
  · rw [h'.offset, h.offset, byteWidth_append, Nat.add_assoc]

theorem Passes.mark {k : Cursor} {c : Char} {rest : List Char} (h : k.rest = c :: rest)
    (hc : c.utf8Size = 1) : k.Passes [c] ⟨k.offset + 1, rest⟩ := by
  constructor
  · rw [h]
    rfl
  · rw [byteWidth_cons, hc]
    rfl

/-- A text that is passed over is passed over part by part. -/
theorem Passes.split {k next : Cursor} {text text' : List Char}
    (h : k.Passes (text ++ text') next) : ∃ mid, k.Passes text mid ∧ mid.Passes text' next := by
  refine ⟨⟨k.offset + byteWidth text, text' ++ next.rest⟩, ⟨?_, rfl⟩, ⟨rfl, ?_⟩⟩
  · rw [h.rest, List.append_assoc]
  · rw [h.offset, byteWidth_append, Nat.add_assoc]

theorem Passes.eq_of_nil {k next : Cursor} (h : k.Passes [] next) : k = next := by
  obtain ⟨offset, rest⟩ := k
  obtain ⟨offset', rest'⟩ := next
  obtain ⟨hrest, hoffset⟩ := h
  obtain rfl : rest = rest' := hrest
  obtain rfl : offset' = offset := hoffset
  rfl

/-- Behind the first character of a text, the rest of it is passed over. -/
theorem Passes.tail {k next : Cursor} {c : Char} {rest text : List Char}
    (h : k.Passes (c :: text) next) (hrest : k.rest = c :: rest) (hc : c.utf8Size = 1) :
    Passes ⟨k.offset + 1, rest⟩ text next := by
  constructor
  · exact (List.cons.inj (hrest.symm.trans h.rest)).2
  · rw [h.offset, byteWidth_cons, hc, Nat.add_assoc]

theorem Passes.length_add {k next : Cursor} {text : List Char} (h : k.Passes text next) :
    k.rest.length = text.length + next.rest.length := by
  rw [h.rest, List.length_append]

theorem Passes.upTo {k next : Cursor} {text : List Char} (h : k.Passes text next) :
    k.upTo next = text := by
  rw [Cursor.upTo, h.rest, List.length_append, Nat.add_sub_cancel, List.take_left]

end Cursor

namespace Parser

/-- What a sequence of readers gives has gone through the first of them. -/
theorem ok_of_bind {α β : Type} {r : Except Halt α} {f : α → Except Halt β} {b : β}
    (h : r >>= f = .ok b) : ∃ a, r = .ok a ∧ f a = .ok b := by
  cases r with
  | error e => exact absurd h nofun
  | ok a => exact ⟨a, rfl, h⟩

/-! ## Literal text -/

/-- Whether a character is a brace. -/
def isBrace (c : Char) : Bool := c == '{' || c == '}'

/-- The ways in which a character of literal text is written. -/
inductive Spelling : EscapeMode → List Char → Char → Prop
  | plain {mode : EscapeMode} {c : Char} : isBrace c = false → (mode = .backslash → c ≠ '\\') →
      Spelling mode [c] c
  | doubled {c : Char} : isBrace c = true → Spelling .doubledBrace [c, c] c
  | escaped {e c : Char} : unescape e = some c → Spelling .backslash ['\\', e] c

theorem isBrace_eq_false_iff {c : Char} : isBrace c = false ↔ c ≠ '{' ∧ c ≠ '}' := by
  simp [isBrace]

theorem Spelling.ne_nil {mode : EscapeMode} {unit : List Char} {c : Char}
    (h : Spelling mode unit c) : unit ≠ [] := by
  cases h <;> exact List.cons_ne_nil _ _

theorem Spelling.front {mode : EscapeMode} {unit rest : List Char} {c : Char}
    (h : Spelling mode unit c) :
    Parser.front mode (unit ++ rest) = .char c (byteWidth unit) rest := by
  cases h with
  | plain hbrace hback =>
    obtain ⟨hopen, hclose⟩ := isBrace_eq_false_iff.mp hbrace
    cases mode with
    | doubledBrace => simp [Parser.front, frontDoubled, hopen, hclose]
    | backslash => simp [Parser.front, frontBackslash, hback]
  | doubled hbrace =>
    have hc : c = '{' ∨ c = '}' := by simpa [isBrace] using hbrace
    rcases hc with rfl | rfl <;> rfl
  | escaped he => simp [Parser.front, frontBackslash, he, Char.utf8Size]

theorem exists_spelling_of_front {mode : EscapeMode} {cs rest : List Char} {c : Char} {width : Nat}
    (h : front mode cs = .char c width rest) :
    ∃ unit, Spelling mode unit c ∧ cs = unit ++ rest ∧ width = byteWidth unit := by
  cases mode with
  | doubledBrace =>
    simp only [front] at h
    unfold frontDoubled at h
    split at h
    · cases h
    · cases h
      exact ⟨['{', '{'], .doubled rfl, rfl, rfl⟩
    · cases h
      exact ⟨['}', '}'], .doubled rfl, rfl, rfl⟩
    · cases h
    · cases h
    · rename_i d ds _ _ hopen hclose
      cases h
      have hbrace := isBrace_eq_false_iff.mpr ⟨hopen, hclose⟩
      exact ⟨[c], .plain hbrace fun hmode ↦ EscapeMode.noConfusion hmode, rfl, rfl⟩
  | backslash =>
    simp only [front] at h
    unfold frontBackslash at h
    split at h
    · cases h
    · cases h
    · rename_i e ds
      split at h
      · rename_i d he
        cases h
        exact ⟨['\\', e], .escaped he, rfl, rfl⟩
      · cases h
    · cases h
    · cases h
    · rename_i d ds hlast hesc hopen hclose
      -- A backslash was caught above, at the end of the text or in front of a character.
      have hback : d ≠ '\\' := by
        rintro rfl
        cases ds with
        | nil => exact hlast rfl rfl
        | cons e es => exact hesc e es rfl rfl
      cases h
      exact ⟨[c], .plain (isBrace_eq_false_iff.mpr ⟨hopen, hclose⟩) fun _ ↦ hback, rfl, rfl⟩

theorem front_eq_char_iff {mode : EscapeMode} {cs rest : List Char} {c : Char} {width : Nat} :
    front mode cs = .char c width rest ↔
      ∃ unit, Spelling mode unit c ∧ cs = unit ++ rest ∧ width = byteWidth unit := by
  constructor
  · exact exists_spelling_of_front
  · rintro ⟨unit, hunit, rfl, rfl⟩
    exact hunit.front

theorem front_eq_finish_iff {mode : EscapeMode} {cs : List Char} :
    front mode cs = .finish ↔ cs = [] := by
  cases mode
  · simp only [front]
    unfold frontDoubled
    split <;> simp
  · simp only [front]
    unfold frontBackslash
    split <;> (try split) <;> simp

theorem front_eq_opening_iff {mode : EscapeMode} {cs rest : List Char} :
    front mode cs = .opening rest ↔
      cs = '{' :: rest ∧ (mode = .doubledBrace → ∀ tail, rest ≠ '{' :: tail) := by
  cases mode
  · simp only [front]
    unfold frontDoubled
    split <;> simp_all
    all_goals grind
  · simp only [front]
    unfold frontBackslash
    split <;> (try split) <;> simp_all

theorem front_eq_closing_iff {mode : EscapeMode} {cs : List Char} :
    front mode cs = .closing ↔
      ∃ rest, cs = '}' :: rest ∧ (mode = .doubledBrace → ∀ tail, rest ≠ '}' :: tail) := by
  cases mode
  · simp only [front]
    unfold frontDoubled
    split <;> simp_all
  · simp only [front]
    unfold frontBackslash
    split <;> (try split) <;> simp_all

/-! ## The parts of a placeholder -/

/-- No text can be read here: a mark follows, or nothing. -/
def AtMark (cs : List Char) : Prop := ∀ c ∈ cs.head?, isMark c = true

theorem atMark_of_cons {c : Char} {cs rest : List Char} (h : cs = c :: rest)
    (hc : isMark c = true) : AtMark cs := by
  subst h
  intro d hd
  obtain rfl : c = d := Option.some.inj hd
  exact hc

/-- A text that may be one segment of a path. -/
structure IsSegment (text : List Char) : Prop where
  ne_nil : text ≠ []
  chars : ∀ c ∈ text, isSelectorChar c = true

/-- The number that a text behind a comma asks for. -/
def IsWidth (text : List Char) (n : Int32) : Prop :=
  (Numeral.signed? text).bind Numeral.int32? = some n

/-! ## Derivations -/

/-- One segment of a path. -/
inductive ReadsSegment (leading : Bool) : Cursor → Selector → Cursor → Prop
  | mk {k next : Cursor} (text : List Char) : k.Passes text next → IsSegment text →
      AtMark next.rest →
      ReadsSegment leading k (.ofText (String.ofList text) ⟨k.offset, next.offset⟩ leading) next

/-- Segments with dots between them. -/
inductive ReadsPath : Bool → Cursor → List Selector → Cursor → Prop
  | last {leading : Bool} {k next : Cursor} {s : Selector} : ReadsSegment leading k s next →
      (∀ rest, next.rest ≠ '.' :: rest) → ReadsPath leading k [s] next
  | dot {leading : Bool} {k mid next : Cursor} {s : Selector} {ss : List Selector}
      {rest : List Char} : ReadsSegment leading k s mid → mid.rest = '.' :: rest →
      ReadsPath false ⟨mid.offset + 1, rest⟩ ss next → ReadsPath leading k (s :: ss) next

/-- The width behind a comma, where there is a comma. -/
inductive ReadsWidth : Cursor → Option Int32 → Cursor → Prop
  | none {k : Cursor} : (∀ rest, k.rest ≠ ',' :: rest) → ReadsWidth k none k
  | some {k next : Cursor} (text : List Char) {n : Int32} : k.Passes (',' :: text) next →
      (∀ c ∈ text, isMark c = false) → AtMark next.rest → IsWidth text n →
      ReadsWidth k (some n) next

section

variable (mode : EscapeMode) (closes : List Char → Bool)

/-- A placeholder up to its format: the brace, the path and the width. -/
inductive ReadsHead : Cursor → List Selector → Option Int32 → Cursor → Prop
  | mk {k mid next : Cursor} {rest : List Char} {selectors : List Selector}
      {width : Option Int32} : front mode k.rest = .opening rest → closes rest = true →
      ReadsPath true ⟨k.offset + 1, rest⟩ selectors mid → ReadsWidth mid width next →
      ReadsHead k selectors width next

/-- The placeholder that stands between two places. -/
def placeholderAt (k next : Cursor) (selectors : List Selector) (width : Option Int32)
    (format : Option Format) : Placeholder :=
  { selectors, alignment := width, format
    raw := String.ofList (k.upTo next)
    span := ⟨k.offset, next.offset⟩ }

/-- Literal text and placeholders, up to the end of the text or to a closing brace. -/
inductive Reads : Scope → Cursor → List Piece → Cursor → Prop
  | finish {scope : Scope} {k : Cursor} : k.rest = [] → Reads scope k [] k
  | close {k : Cursor} : front mode k.rest = .closing → Reads .format k [] k
  | char {scope : Scope} {k mid next : Cursor} {unit : List Char} {c : Char} {ps : List Piece} :
      Spelling mode unit c → k.Passes unit mid → Reads scope mid ps next →
      Reads scope k (.char c ⟨k.offset, mid.offset⟩ :: ps) next
  | bare {scope : Scope} {k mid next : Cursor} {rest : List Char} {selectors : List Selector}
      {width : Option Int32} {ps : List Piece} : ReadsHead mode closes k selectors width mid →
      mid.rest = '}' :: rest → Reads scope ⟨mid.offset + 1, rest⟩ ps next →
      Reads scope k
        (.placeholder (placeholderAt k ⟨mid.offset + 1, rest⟩ selectors width none) :: ps) next
  | formatted {scope : Scope} {k mid stop next : Cursor} {body rest : List Char}
      {selectors : List Selector} {width : Option Int32} {qs ps : List Piece} :
      ReadsHead mode closes k selectors width mid → mid.rest = ':' :: body →
      Reads .format ⟨mid.offset + 1, body⟩ qs stop → stop.rest = '}' :: rest →
      Reads scope ⟨stop.offset + 1, rest⟩ ps next →
      Reads scope k
        (.placeholder (placeholderAt k ⟨stop.offset + 1, rest⟩ selectors width
          (some (.ofTemplate (Piece.gather qs) ⟨mid.offset + 1, stop.offset⟩))) :: ps) next

end

theorem mem_of_isMark {c : Char} (h : isMark c = true) : c ∈ ['{', '}', ':', '.', ',', '\\'] := by
  unfold isMark at h
  split at h <;> simp_all

theorem isSelectorChar_eq_false_of_mem {c : Char} (h : c ∈ ['{', '}', ':', '.', ',', '\\']) :
    isSelectorChar c = false := by
  have hall : ['{', '}', ':', '.', ',', '\\'].all (!isSelectorChar ·) = true := by decide +kernel
  have hc := List.all_eq_true.mp hall c h
  rwa [Bool.not_eq_true'] at hc

theorem isMark_eq_false_of_isSelectorChar {c : Char} (h : isSelectorChar c = true) :
    isMark c = false := by
  by_contra hc
  rw [Bool.not_eq_false] at hc
  have hfalse := isSelectorChar_eq_false_of_mem (mem_of_isMark hc)
  rw [h] at hfalse
  exact Bool.noConfusion hfalse

theorem run_passes (k : Cursor) : k.Passes k.run.1 k.run.2 :=
  ⟨List.takeWhile_append_dropWhile.symm, rfl⟩

theorem isMark_of_mem_run {k : Cursor} {c : Char} (h : c ∈ k.run.1) : isMark c = false := by
  have hc := List.mem_takeWhile_imp (p := (!isMark ·)) h
  simpa using hc

theorem atMark_run (k : Cursor) : AtMark k.run.2.rest := by
  intro c hc
  have h := List.head?_dropWhile_not (!isMark ·) k.rest
  have hhead : (k.rest.dropWhile (!isMark ·)).head? = some c := hc
  rw [hhead] at h
  simpa using h

/-- The longest run is the one that ends at a mark. -/
theorem run_eq {k next : Cursor} {text : List Char} (h : k.Passes text next)
    (htext : ∀ c ∈ text, isMark c = false) (hnext : AtMark next.rest) : k.run = (text, next) := by
  have htake : k.rest.takeWhile (!isMark ·) = text := by
    rw [h.rest, List.takeWhile_append_of_pos (by simpa using htext)]
    cases hr : next.rest with
    | nil => simp
    | cons c cs => simp [hnext c (by simp [hr])]
  have hdrop : k.rest.dropWhile (!isMark ·) = next.rest := by
    have := List.takeWhile_append_dropWhile (p := (!isMark ·)) (l := k.rest)
    rw [htake] at this
    exact List.append_cancel_left (this.trans h.rest)
  rw [Cursor.run, htake, hdrop, ← h.offset]

theorem firstInvalid?_eq_none_iff {cs : List Char} :
    firstInvalid? cs = none ↔ ∀ c ∈ cs, isSelectorChar c = true := by
  induction cs with
  | nil => simp [firstInvalid?]
  | cons c cs ih => by_cases h : isSelectorChar c = true <;> simp [firstInvalid?, h, ih]

theorem fail_ne_ok {α : Type} {kind : SyntaxErrorKind} {start stop : Nat} {a : α} :
    fail kind start stop ≠ .ok a := nofun

theorem missingSegment_ne_ok {α : Type} {opening offset : Nat} {leading : Bool} {c : Char} {a : α} :
    missingSegment opening offset leading c ≠ .ok a := by
  unfold missingSegment
  split
  · exact fail_ne_ok
  · split <;> exact fail_ne_ok

theorem segment_eq_ok_iff {opening : Nat} {leading : Bool} {k next : Cursor} {s : Selector} :
    segment opening leading k = .ok (s, next) ↔
      ReadsSegment leading k s next := by
  constructor
  · intro h
    unfold segment at h
    split at h
    · exact absurd h fail_ne_ok
    · rename_i c cs hrest
      split at h
      · exact absurd h missingSegment_ne_ok
      · rename_i hc
        have hne := run_ne_nil hrest (by simpa using hc)
        simp only at h
        split at h
        · exact absurd h fail_ne_ok
        · rename_i hvalid
          injection h with h
          injection h with hs hnext
          subst hs hnext
          exact .mk k.run.1 (run_passes k) ⟨hne, firstInvalid?_eq_none_iff.mp hvalid⟩ (atMark_run k)
  · intro h
    cases h with
    | mk text hpass htext hmark =>
      have hplain : ∀ c ∈ text, isMark c = false := fun c hc ↦
        isMark_eq_false_of_isSelectorChar (htext.chars c hc)
      have hrun := run_eq hpass hplain hmark
      obtain ⟨c, cs, rfl⟩ := List.exists_cons_of_ne_nil htext.ne_nil
      have hrest : k.rest = c :: (cs ++ next.rest) := hpass.rest
      unfold segment
      rw [hrest]
      simp only [hplain c List.mem_cons_self, hrun, Bool.false_eq_true, if_false,
        firstInvalid?_eq_none_iff.mpr htext.chars]

theorem alignment_eq_ok_iff {k next : Cursor} {a : Option Int32} :
    alignment k = .ok (a, next) ↔ ReadsWidth k a next := by
  constructor
  · intro h
    unfold alignment at h
    split at h
    · rename_i rest hrest
      simp only at h
      split at h
      · exact absurd h fail_ne_ok
      · split at h
        · rename_i n hn
          injection h with h
          injection h with ha hnext
          subst ha hnext
          exact .some _ ((Cursor.Passes.mark hrest rfl).trans (run_passes _))
            (fun c hc ↦ isMark_of_mem_run hc) (atMark_run _) hn
        · exact absurd h fail_ne_ok
    · rename_i hrest
      injection h with h
      injection h with ha hnext
      subst ha hnext
      exact .none hrest
  · intro h
    cases h with
    | none hrest =>
      unfold alignment
      split
      · rename_i rest h
        exact absurd h (hrest rest)
      · rfl
    | some text hpass htext hmark hn =>
      have hrun : Cursor.run ⟨k.offset + 1, text ++ next.rest⟩ = (text, next) := by
        refine run_eq ⟨rfl, ?_⟩ htext hmark
        rw [hpass.offset, byteWidth_cons, ← Nat.add_assoc]
        rfl
      have hne : text ≠ [] := by
        rintro rfl
        exact absurd hn nofun
      have hrest : k.rest = ',' :: (text ++ next.rest) := hpass.rest
      unfold alignment
      rw [hrest]
      rw [IsWidth] at hn
      simp only [hrun, List.isEmpty_iff, hne, if_false, hn]

theorem ReadsSegment.length_lt {leading : Bool} {k next : Cursor} {s : Selector}
    (h : ReadsSegment leading k s next) : next.rest.length < k.rest.length := by
  cases h with
  | mk text hpass htext hmark =>
    have hpos := List.length_pos_iff.mpr htext.ne_nil
    rw [hpass.rest, List.length_append]
    omega

theorem readsPath_of_path {opening bound : Nat} {leading : Bool} {k next : Cursor}
    {ss : List Selector} (h : path opening bound leading k = .ok (ss, next)) :
    ReadsPath leading k ss next := by
  induction bound generalizing leading k ss with
  | zero => exact absurd h nofun
  | succ bound ih =>
    rw [path] at h
    obtain ⟨⟨s, mid⟩, hs, h⟩ := ok_of_bind h
    simp only at h
    split at h
    · rename_i rest hrest
      obtain ⟨⟨ss', last⟩, hss, h⟩ := ok_of_bind h
      cases h
      exact .dot (segment_eq_ok_iff.mp hs) hrest (ih hss)
    · rename_i hrest
      cases h
      exact .last (segment_eq_ok_iff.mp hs) hrest

theorem path_of_readsPath {opening bound : Nat} {leading : Bool} {k next : Cursor}
    {ss : List Selector} (h : ReadsPath leading k ss next) (hbound : k.rest.length < bound) :
    path opening bound leading k = .ok (ss, next) := by
  induction h generalizing bound with
  | @last leading k next s hs hrest =>
    obtain ⟨bound, rfl⟩ := Nat.exists_eq_add_one_of_ne_zero (Nat.ne_zero_of_lt hbound)
    rw [path, segment_eq_ok_iff.mpr hs]
    simp only [bind, Except.bind]
    rfl
  | @dot leading k mid next s ss rest hs hrest _ ih =>
    obtain ⟨bound, rfl⟩ := Nat.exists_eq_add_one_of_ne_zero (Nat.ne_zero_of_lt hbound)
    have hlen := hs.length_lt
    rw [hrest, List.length_cons] at hlen
    rw [path, segment_eq_ok_iff.mpr hs]
    simp only [bind, Except.bind, hrest]
    rw [ih (by simp only; omega)]
    rfl

/-! ## What a derivation passes over -/

/-- The segments of a path with dots between them. -/
def pathText : List Selector → List Char
  | [] => []
  | [s] => s.text.toList
  | s :: ss => s.text.toList ++ '.' :: pathText ss

theorem pathText_cons {s : Selector} {ss : List Selector} (h : ss ≠ []) :
    pathText (s :: ss) = s.text.toList ++ '.' :: pathText ss := by
  cases ss with
  | nil => exact absurd rfl h
  | cons s' ss => rfl

theorem ReadsSegment.passes {leading : Bool} {k next : Cursor} {s : Selector}
    (h : ReadsSegment leading k s next) : k.Passes s.text.toList next := by
  cases h with
  | mk text hpass _ _ =>
    rw [show (Selector.ofText (String.ofList text) ⟨k.offset, next.offset⟩ leading).text
      = String.ofList text from rfl, String.toList_ofList]
    exact hpass

theorem ReadsPath.ne_nil {leading : Bool} {k next : Cursor} {ss : List Selector}
    (h : ReadsPath leading k ss next) : ss ≠ [] := by
  cases h <;> exact List.cons_ne_nil _ _

theorem ReadsPath.passes {leading : Bool} {k next : Cursor} {ss : List Selector}
    (h : ReadsPath leading k ss next) : k.Passes (pathText ss) next := by
  induction h with
  | last hs _ => exact hs.passes
  | @dot leading k mid next s ss rest hs hrest hss ih =>
    rw [pathText_cons hss.ne_nil]
    exact hs.passes.trans ((Cursor.Passes.mark hrest rfl).trans ih)

/-- A width as it is written: nothing, or a comma and a number. -/
def IsWidthText (text : List Char) : Option Int32 → Prop
  | none => text = []
  | some n => ∃ digits, text = ',' :: digits ∧ IsWidth digits n

theorem ReadsWidth.passes {k next : Cursor} {width : Option Int32} (h : ReadsWidth k width next) :
    ∃ text, IsWidthText text width ∧ k.Passes text next := by
  cases h with
  | none _ => exact ⟨[], rfl, .refl k⟩
  | some text hpass _ _ hn => exact ⟨',' :: text, ⟨text, rfl, hn⟩, hpass⟩

theorem ReadsHead.passes {mode : EscapeMode} {closes : List Char → Bool} {k next : Cursor}
    {selectors : List Selector} {width : Option Int32}
    (h : ReadsHead mode closes k selectors width next) :
    ∃ text, IsWidthText text width ∧ k.Passes ('{' :: (pathText selectors ++ text)) next := by
  cases h with
  | mk hfront _ hpath hwidth =>
    obtain ⟨text, htext, hpass⟩ := hwidth.passes
    have hopen := Cursor.Passes.mark (front_eq_opening_iff.mp hfront).1 rfl
    exact ⟨text, htext, hopen.trans (hpath.passes.trans hpass)⟩

theorem Reads.passes {mode : EscapeMode} {closes : List Char → Bool} {scope : Scope}
    {k next : Cursor} {ps : List Piece} (h : Reads mode closes scope k ps next) :
    ∃ text, k.Passes text next := by
  induction h with
  | finish _ => exact ⟨[], .refl _⟩
  | close _ => exact ⟨[], .refl _⟩
  | char _ hpass _ ih =>
    obtain ⟨text, htext⟩ := ih
    exact ⟨_, hpass.trans htext⟩
  | bare hhead hclose _ ih =>
    obtain ⟨head, _, hhead⟩ := hhead.passes
    obtain ⟨text, htext⟩ := ih
    exact ⟨_, hhead.trans ((Cursor.Passes.mark hclose rfl).trans htext)⟩
  | formatted hhead hcolon _ hclose _ ihq ih =>
    obtain ⟨head, _, hhead⟩ := hhead.passes
    obtain ⟨body, hbody⟩ := ihq
    obtain ⟨text, htext⟩ := ih
    have hspecifier := (Cursor.Passes.mark hcolon rfl).trans hbody
    exact ⟨_, hhead.trans (hspecifier.trans ((Cursor.Passes.mark hclose rfl).trans htext))⟩

/-! ## The reader accepts what has a derivation -/

section

variable {mode : EscapeMode} {closes : List Char → Bool}

/-- A placeholder that was read has a format or has none. -/
theorem placeholder_cases {bound : Nat} {specifier : Cursor → Except Halt (List Piece × Cursor)}
    {k next : Cursor} {rest : List Char} {p : Placeholder}
    (hfront : front mode k.rest = .opening rest) (hcloses : closes rest = true)
    (h : placeholder bound specifier k rest = .ok (p, next)) :
    ∃ selectors width mid, ReadsHead mode closes k selectors width mid ∧
      ((∃ tail, mid.rest = '}' :: tail ∧ next = ⟨mid.offset + 1, tail⟩ ∧
          p = placeholderAt k next selectors width none) ∨
        ∃ body qs stop tail, mid.rest = ':' :: body ∧
          specifier ⟨mid.offset + 1, body⟩ = .ok (qs, stop) ∧ stop.rest = '}' :: tail ∧
          next = ⟨stop.offset + 1, tail⟩ ∧
          p = placeholderAt k next selectors width
            (some (.ofTemplate (Piece.gather qs) ⟨mid.offset + 1, stop.offset⟩))) := by
  rw [placeholder] at h
  obtain ⟨⟨selectors, head⟩, hpath, h⟩ := ok_of_bind h
  obtain ⟨⟨width, mid⟩, hwidth, h⟩ := ok_of_bind h
  obtain ⟨⟨format', stop⟩, hformat, h⟩ := ok_of_bind h
  refine ⟨selectors, width, mid,
    .mk hfront hcloses (readsPath_of_path hpath) (alignment_eq_ok_iff.mp hwidth), ?_⟩
  simp only at hformat h
  split at h
  · rename_i tail htail
    cases h
    unfold format at hformat
    split at hformat
    · rename_i body hbody
      obtain ⟨⟨qs, stop'⟩, hqs, hformat⟩ := ok_of_bind hformat
      cases hformat
      exact Or.inr ⟨body, qs, stop, tail, hbody, hqs, htail, rfl, rfl⟩
    · cases hformat
      exact Or.inl ⟨tail, htail, rfl, rfl⟩
  · exact absurd h fail_ne_ok
  · exact absurd h fail_ne_ok

theorem reads_of_pieces {bound : Nat} {scope : Scope} {k next : Cursor} {ps : List Piece}
    (h : pieces mode closes bound scope k = .ok (ps, next)) :
    Reads mode closes scope k ps next := by
  -- The specifier is read under the same smaller bound as what follows, so both are covered by `ih`.
  induction bound generalizing scope k ps next with
  | zero => exact absurd h nofun
  | succ bound ih =>
    unfold pieces at h
    split at h
    · rename_i hfront
      cases h
      exact .finish (front_eq_finish_iff.mp hfront)
    · rename_i c width rest hfront
      obtain ⟨unit, hunit, hrest, rfl⟩ := front_eq_char_iff.mp hfront
      obtain ⟨⟨ps', last⟩, hps, h⟩ := ok_of_bind h
      cases h
      exact .char hunit ⟨hrest, rfl⟩ (ih hps)
    · rename_i rest hfront
      split at h
      · rename_i hcloses
        obtain ⟨⟨p, mid⟩, hp, h⟩ := ok_of_bind h
        obtain ⟨⟨ps', last⟩, hps, h⟩ := ok_of_bind h
        cases h
        obtain ⟨selectors, width, head, hhead, hp⟩ := placeholder_cases hfront hcloses hp
        rcases hp with ⟨tail, htail, rfl, rfl⟩ | ⟨body, qs, stop, tail, hbody, hqs, htail, rfl, rfl⟩
        · exact .bare hhead htail (ih hps)
        · exact .formatted hhead hbody (ih hqs) htail (ih hps)
      · exact absurd h fail_ne_ok
    · rename_i hfront
      split at h
      · exact absurd h fail_ne_ok
      · cases h
        exact .close hfront
    · exact absurd h fail_ne_ok

theorem format_of_bare {specifier : Cursor → Except Halt (List Piece × Cursor)} {k : Cursor}
    (h : ∀ body, k.rest ≠ ':' :: body) : format specifier k = .ok (none, k) := by
  unfold format
  split
  · rename_i body hbody
    exact absurd hbody (h body)
  · rfl

theorem format_of_colon {specifier : Cursor → Except Halt (List Piece × Cursor)} {k stop : Cursor}
    {body : List Char} {qs : List Piece} (h : k.rest = ':' :: body)
    (hqs : specifier ⟨k.offset + 1, body⟩ = .ok (qs, stop)) :
    format specifier k =
      .ok (some (.ofTemplate (Piece.gather qs) ⟨k.offset + 1, stop.offset⟩), stop) := by
  rw [format, h]
  simp only [hqs, bind, Except.bind]
  rfl

theorem placeholder_eq_ok {bound : Nat} {specifier : Cursor → Except Halt (List Piece × Cursor)}
    {k head mid stop : Cursor} {opened tail : List Char} {selectors : List Selector}
    {width : Option Int32} {f : Option Format} (hbound : opened.length < bound)
    (hpath : ReadsPath true ⟨k.offset + 1, opened⟩ selectors head)
    (hwidth : ReadsWidth head width mid) (hformat : format specifier mid = .ok (f, stop))
    (hclose : stop.rest = '}' :: tail) :
    placeholder bound specifier k opened =
      .ok (placeholderAt k ⟨stop.offset + 1, tail⟩ selectors width f, ⟨stop.offset + 1, tail⟩) := by
  rw [placeholder, path_of_readsPath hpath hbound]
  simp only [bind, Except.bind, alignment_eq_ok_iff.mpr hwidth, hformat, hclose]
  rfl

theorem pieces_of_opening {bound : Nat} {scope : Scope} {k mid next : Cursor} {rest : List Char}
    {p : Placeholder} {ps : List Piece} (hfront : front mode k.rest = .opening rest)
    (hcloses : closes rest = true)
    (hp : placeholder bound (pieces mode closes bound .format) k rest = .ok (p, mid))
    (hps : pieces mode closes bound scope mid = .ok (ps, next)) :
    pieces mode closes (bound + 1) scope k = .ok (.placeholder p :: ps, next) := by
  unfold pieces
  simp only [hfront, hcloses, if_true, hp, bind, Except.bind, hps]
  rfl

/-- A reader with a bound above the length of the text finds every derivation. -/
theorem pieces_of_reads {bound : Nat} {scope : Scope} {k next : Cursor} {ps : List Piece}
    (h : Reads mode closes scope k ps next) (hbound : k.rest.length < bound) :
    pieces mode closes bound scope k = .ok (ps, next) := by
  -- Every rule passes over something, so what is left fits under a bound that is one less.
  induction h generalizing bound with
  | finish hk =>
    obtain ⟨bound, rfl⟩ := Nat.exists_eq_add_one_of_ne_zero (Nat.ne_zero_of_lt hbound)
    unfold pieces
    rw [front_eq_finish_iff.mpr hk]
  | close hk =>
    obtain ⟨bound, rfl⟩ := Nat.exists_eq_add_one_of_ne_zero (Nat.ne_zero_of_lt hbound)
    unfold pieces
    rw [hk]
  | @char scope k mid next unit c ps hunit hpass _ ih =>
    obtain ⟨bound, rfl⟩ := Nat.exists_eq_add_one_of_ne_zero (Nat.ne_zero_of_lt hbound)
    have hlen := hpass.length_add
    have hpos := List.length_pos_iff.mpr hunit.ne_nil
    obtain ⟨offset, rest⟩ := mid
    obtain rfl : offset = k.offset + byteWidth unit := hpass.offset
    have hps : pieces mode closes bound scope _ = _ := ih (by omega)
    unfold pieces
    rw [front_eq_char_iff.mpr ⟨unit, hunit, hpass.rest, rfl⟩]
    simp only [hps, bind, Except.bind]
    rfl
  | @bare scope k mid next rest selectors width ps hhead hclose _ ih =>
    obtain ⟨bound, rfl⟩ := Nat.exists_eq_add_one_of_ne_zero (Nat.ne_zero_of_lt hbound)
    obtain ⟨_, _, hpass⟩ := hhead.passes
    have hlen := hpass.length_add
    rw [hclose] at hlen
    simp only [List.length_cons] at hlen
    obtain ⟨hfront, hcloses, hpath, hwidth⟩ := hhead
    have hopened := length_eq_of_front_opening hfront
    have hcolon : ∀ body, mid.rest ≠ ':' :: body := by
      intro body hbody
      rw [hclose] at hbody
      exact absurd (List.head_eq_of_cons_eq hbody) (by decide)
    exact pieces_of_opening hfront hcloses
      (placeholder_eq_ok (by omega) hpath hwidth (format_of_bare hcolon) hclose)
      (ih (by simp only; omega))
  | @formatted scope k mid stop next body rest selectors width qs ps hhead hcolon hqs hclose _ ihq
      ih =>
    obtain ⟨bound, rfl⟩ := Nat.exists_eq_add_one_of_ne_zero (Nat.ne_zero_of_lt hbound)
    obtain ⟨_, _, hpass⟩ := hhead.passes
    obtain ⟨_, hpass'⟩ := hqs.passes
    have hlen := hpass.length_add
    have hlen' := hpass'.length_add
    rw [hcolon] at hlen
    rw [hclose] at hlen'
    simp only [List.length_cons] at hlen hlen'
    obtain ⟨hfront, hcloses, hpath, hwidth⟩ := hhead
    have hopened := length_eq_of_front_opening hfront
    exact pieces_of_opening hfront hcloses
      (placeholder_eq_ok (by omega) hpath hwidth
        (format_of_colon hcolon (ihq (by simp only; omega))) hclose)
      (ih (by simp only; omega))

theorem pieces_eq_ok_iff {bound : Nat} {scope : Scope} {k next : Cursor} {ps : List Piece}
    (hbound : k.rest.length < bound) :
    pieces mode closes bound scope k = .ok (ps, next) ↔ Reads mode closes scope k ps next :=
  ⟨reads_of_pieces, fun h ↦ pieces_of_reads h hbound⟩

theorem Reads.rest_eq_nil {k next : Cursor} {ps : List Piece}
    (h : Reads mode closes .root k ps next) : next.rest = [] := by
  generalize hscope : Scope.root = scope at h
  induction h with
  | finish hk => exact hk
  | close _ => exact Scope.noConfusion hscope
  | char _ _ _ ih => exact ih hscope
  | bare _ _ _ ih => exact ih hscope
  | formatted _ _ _ _ _ _ ih => exact ih hscope

end

end Parser

/-- A text is a template exactly if it has a derivation. -/
theorem Template.parse_eq_ok_iff {mode : EscapeMode} {source : String} {t : Template} :
    Template.parse mode source = .ok t ↔
      ∃ ps next, Parser.Reads mode (Parser.closes mode) .root (.ofString source) ps next ∧
        Piece.gather ps = t := by
  have hreads : ∀ ps next, Parser.piecesOf mode (Parser.closes mode) source = .ok (ps, next) ↔
      Parser.Reads mode (Parser.closes mode) .root (.ofString source) ps next := fun _ _ ↦
    Parser.pieces_eq_ok_iff (Nat.lt_succ_self _)
  rw [Template.parse, Parser.parseWith_eq_ok_iff]
  simp only [hreads]

end TextTemplate
