import TextTemplate.Proofs.Reading

/-!
# Looking ahead where a backslash escapes

The scan that looks ahead counts braces in the text as it stands, while the reader decodes escapes
and nests placeholders. Under backslash escapes the two agree: whatever a derivation passes over is
neutral for the scan, so the scan finds the closing brace of every placeholder that can be read, and
a derivation that never looked ahead is one that did.
-/

namespace TextTemplate.Parser

/-! ## Neutral text -/

/-- A text without braces and backslashes. -/
def IsPlain (text : List Char) : Prop := ∀ c ∈ text, c ≠ '{' ∧ c ≠ '}' ∧ c ≠ '\\'

theorem IsPlain.append {text text' : List Char} (h : IsPlain text) (h' : IsPlain text') :
    IsPlain (text ++ text') := by
  intro c hc
  rcases List.mem_append.mp hc with hc | hc
  · exact h c hc
  · exact h' c hc

theorem IsPlain.cons {c : Char} {text : List Char} (hc : c ≠ '{' ∧ c ≠ '}' ∧ c ≠ '\\')
    (h : IsPlain text) : IsPlain (c :: text) := List.forall_mem_cons.mpr ⟨hc, h⟩

theorem isPlain_of_isMark {text : List Char} (h : ∀ c ∈ text, isMark c = false) :
    IsPlain text := by
  intro c hc
  have hmark := h c hc
  refine ⟨?_, ?_, ?_⟩ <;> rintro rfl <;> exact Bool.noConfusion hmark

theorem closesBackslash_cons {c : Char} {depth : Nat} {rest : List Char} (hopen : c ≠ '{')
    (hclose : c ≠ '}') (hback : c ≠ '\\') :
    closesBackslash depth (c :: rest) = closesBackslash depth rest := by
  cases depth <;> simp [closesBackslash, hclose, hback]

theorem closesBackslash_append {text rest : List Char} {depth : Nat} (h : IsPlain text) :
    closesBackslash depth (text ++ rest) = closesBackslash depth rest := by
  induction text with
  | nil => rfl
  | cons c text ih =>
    obtain ⟨hopen, hclose, hback⟩ := h c List.mem_cons_self
    rw [List.cons_append, closesBackslash_cons hopen hclose hback]
    exact ih fun d hd ↦ h d (List.mem_cons_of_mem c hd)

theorem closesBackslash_spelling {unit rest : List Char} {c : Char} {depth : Nat}
    (h : Spelling .backslash unit c) :
    closesBackslash depth (unit ++ rest) = closesBackslash depth rest := by
  cases h with
  | plain hbrace hback =>
    obtain ⟨hopen, hclose⟩ := isBrace_eq_false_iff.mp hbrace
    exact closesBackslash_cons hopen hclose (hback rfl)
  | escaped _ => simp [closesBackslash]

/-! ## Neutral derivations -/

theorem ReadsSegment.isPlain {leading : Bool} {k next : Cursor} {s : Selector}
    (h : ReadsSegment leading k s next) : IsPlain s.text.toList := by
  cases h with
  | mk text _ htext _ =>
    rw [Selector.ofText, String.toList_ofList]
    exact isPlain_of_isMark fun c hc ↦ isMark_eq_false_of_isSelectorChar (htext.chars c hc)

theorem ReadsPath.isPlain {leading : Bool} {k next : Cursor} {ss : List Selector}
    (h : ReadsPath leading k ss next) : IsPlain (pathText ss) := by
  induction h with
  | last hs _ => exact hs.isPlain
  | dot hs _ hss ih =>
    rw [pathText_cons hss.ne_nil]
    exact hs.isPlain.append (ih.cons (by decide))

theorem ReadsWidth.passes_plain {k next : Cursor} {width : Option Int32}
    (h : ReadsWidth k width next) : ∃ text, IsPlain text ∧ k.Passes text next := by
  cases h with
  | none _ => exact ⟨[], List.forall_mem_nil _, .refl k⟩
  | some text hpass htext _ _ => exact ⟨_, (isPlain_of_isMark htext).cons (by decide), hpass⟩

variable {closes' : List Char → Bool}

/-- Between the opening brace of a placeholder and its format there are neither braces nor
backslashes. -/
theorem ReadsHead.passes_plain {mode : EscapeMode} {k mid : Cursor} {selectors : List Selector}
    {width : Option Int32} (h : ReadsHead mode closes' k selectors width mid) :
    ∃ text, IsPlain text ∧ k.Passes ('{' :: text) mid := by
  obtain ⟨hfront, _, hpath, hwidth⟩ := h
  obtain ⟨text, htext, hpass⟩ := hwidth.passes_plain
  have hopen := Cursor.Passes.mark (front_eq_opening_iff.mp hfront).1 rfl
  exact ⟨_, hpath.isPlain.append htext, hopen.trans (hpath.passes.trans hpass)⟩

theorem closesBackslash_head {k mid : Cursor} {selectors : List Selector} {width : Option Int32}
    (h : ReadsHead .backslash closes' k selectors width mid) :
    ∃ rest, k.rest = '{' :: rest ∧
      ∀ depth, closesBackslash depth rest = closesBackslash depth mid.rest := by
  obtain ⟨text, htext, hpass⟩ := h.passes_plain
  exact ⟨_, hpass.rest, fun depth ↦ closesBackslash_append htext⟩

theorem closesBackslash_open {depth : Nat} {rest : List Char} :
    closesBackslash depth ('{' :: rest) = closesBackslash (depth + 1) rest := by
  simp [closesBackslash]

theorem closesBackslash_close {depth : Nat} {rest : List Char} :
    closesBackslash (depth + 1) ('}' :: rest) = closesBackslash depth rest := by
  simp [closesBackslash]

/-- Whatever a derivation passes over is neutral, at every depth. -/
theorem closesBackslash_reads {scope : Scope} {k next : Cursor} {ps : List Piece}
    (h : Reads .backslash closes' scope k ps next) (depth : Nat) :
    closesBackslash depth k.rest = closesBackslash depth next.rest := by
  induction h generalizing depth with
  | finish _ => rfl
  | close _ => rfl
  | char hunit hpass _ ih => rw [hpass.rest, closesBackslash_spelling hunit, ih]
  | bare hhead hclose _ ih =>
    obtain ⟨rest, hopen, hrest⟩ := closesBackslash_head hhead
    rw [hopen, closesBackslash_open, hrest, hclose, closesBackslash_close]
    exact ih depth
  | formatted hhead hcolon _ hclose _ ihq ih =>
    obtain ⟨rest, hopen, hrest⟩ := closesBackslash_head hhead
    -- The specifier is scanned one level deeper, and its closing brace brings the scan back.
    have hbody := ihq (depth + 1)
    rw [hopen, closesBackslash_open, hrest, hcolon, closesBackslash_cons (by decide) (by decide)
      (by decide), hbody, hclose, closesBackslash_close]
    exact ih depth

/-! ## Derivations without a scan -/

theorem ReadsHead.of_rest {k mid : Cursor} {selectors : List Selector} {width : Option Int32}
    (h : ReadsHead .backslash closes' k selectors width mid)
    (hmid : closesBackslash 0 mid.rest = true) :
    ReadsHead .backslash (closes .backslash) k selectors width mid := by
  obtain ⟨rest, hopen, hrest⟩ := closesBackslash_head h
  obtain ⟨hfront, _, hpath, hwidth⟩ := h
  obtain rfl := (List.cons.inj ((front_eq_opening_iff.mp hfront).1.symm.trans hopen)).2
  exact .mk hfront ((hrest 0).trans hmid) hpath hwidth

/-- The scan passes every placeholder that can be read. -/
theorem Reads.looksAhead {scope : Scope} {k next : Cursor} {ps : List Piece}
    (h : Reads .backslash closes' scope k ps next) :
    Reads .backslash (closes .backslash) scope k ps next := by
  induction h with
  | finish hk => exact .finish hk
  | close hk => exact .close hk
  | char hunit hpass _ ih => exact .char hunit hpass ih
  | bare hhead hclose _ ih =>
    refine .bare (hhead.of_rest ?_) hclose ih
    rw [hclose]
    rfl
  | formatted hhead hcolon hqs hclose _ ihq ih =>
    refine .formatted (hhead.of_rest ?_) hcolon ihq hclose ih
    have hbody := closesBackslash_reads hqs 0
    rw [hcolon, closesBackslash_cons (by decide) (by decide) (by decide), hbody, hclose]
    rfl

end TextTemplate.Parser
