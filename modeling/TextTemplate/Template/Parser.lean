import TextTemplate.Template.Parser.Basic

/-!
# Reading templates

The template that a text is: its pieces are read and then gathered. The bound on reading is never
met, so none is seen from outside.
-/

namespace TextTemplate

/-! ## The bound on reading

Every part of a template that is read leaves less of the text to be read. So a bound above the length
of the text is enough, and no outcome of reading a text depends on it. -/

namespace Parser

/-- An outcome that is not exhaustion and, where it goes on, leaves at most so much to be read. -/
def Progress {α : Type} (left : Nat) : Except Halt (α × Cursor) → Prop
  | .error .exhausted => False
  | .error (.malformed _) => True
  | .ok (_, k) => k.rest.length ≤ left

theorem Progress.mono {α : Type} {m n : Nat} {r : Except Halt (α × Cursor)} (h : Progress m r)
    (hmn : m ≤ n) : Progress n r := by
  match r, h with
  | .error (.malformed _), _ => trivial
  | .ok (_, k), h => exact Nat.le_trans h hmn

theorem Progress.bind {α β : Type} {m n : Nat} {r : Except Halt (α × Cursor)}
    {f : α × Cursor → Except Halt (β × Cursor)} (h : Progress m r)
    (hf : ∀ a k, k.rest.length ≤ m → Progress n (f (a, k))) : Progress n (r >>= f) := by
  match r, h with
  | .error (.malformed _), _ => trivial
  | .ok (a, k), h => exact hf a k h

theorem Progress.fail {α : Type} {n : Nat} {kind : SyntaxErrorKind} {start stop : Nat} :
    Progress n (Parser.fail kind start stop : Except Halt (α × Cursor)) := trivial

theorem Progress.unclosed {α : Type} {n opening : Nat} :
    Progress n (Parser.unclosed opening : Except Halt (α × Cursor)) := trivial

theorem Progress.missingSegment {α : Type} {n opening offset : Nat} {leading : Bool} {c : Char} :
    Progress n (Parser.missingSegment opening offset leading c : Except Halt (α × Cursor)) := by
  unfold Parser.missingSegment
  split <;> (try split) <;> exact Progress.fail

theorem length_lt_of_front_char {mode : EscapeMode} {cs rest : List Char} {c : Char} {width : Nat}
    (h : front mode cs = .char c width rest) : rest.length < cs.length := by
  cases mode
  · simp only [front] at h
    unfold frontDoubled at h
    split at h <;> cases h <;> simp only [List.length_cons] <;> omega
  · simp only [front] at h
    unfold frontBackslash at h
    split at h <;> (try split at h) <;> cases h <;> simp only [List.length_cons] <;> omega

theorem length_eq_of_front_opening {mode : EscapeMode} {cs rest : List Char}
    (h : front mode cs = .opening rest) : cs.length = rest.length + 1 := by
  cases mode
  · simp only [front] at h
    unfold frontDoubled at h
    split at h <;> cases h
    rfl
  · simp only [front] at h
    unfold frontBackslash at h
    split at h <;> (try split at h) <;> cases h
    rfl

theorem run_length (k : Cursor) : k.run.1.length + k.run.2.rest.length = k.rest.length := by
  simp only [Cursor.run]
  rw [← List.length_append, List.takeWhile_append_dropWhile]

theorem run_ne_nil {k : Cursor} {c : Char} {cs : List Char} (h : k.rest = c :: cs)
    (hc : isMark c = false) : k.run.1 ≠ [] := by
  simp [Cursor.run, h, hc]

theorem segment_progress {opening : Nat} {leading : Bool} {k : Cursor} :
    Progress (k.rest.length - 1) (segment opening leading k) := by
  unfold segment
  split
  · exact Progress.unclosed
  · rename_i c cs h
    split
    · exact Progress.missingSegment
    · rename_i hc
      have hne := run_ne_nil h (by simpa using hc)
      have hlen := run_length k
      have hpos := List.length_pos_iff.mpr hne
      simp only
      split
      · exact Progress.fail
      · show k.run.2.rest.length ≤ _
        omega

theorem path_progress {opening : Nat} : ∀ {bound : Nat} {leading : Bool} {k : Cursor},
    k.rest.length < bound → Progress (k.rest.length - 1) (path opening bound leading k)
  | bound + 1, leading, k, h => by
    refine Progress.bind segment_progress fun s next hnext ↦ ?_
    simp only
    split
    · rename_i rest hrest
      have hlen : next.rest.length = rest.length + 1 := by rw [hrest, List.length_cons]
      refine Progress.bind (m := k.rest.length - 1) ?_ fun ss next h ↦ h
      refine (path_progress ?_).mono ?_
      · show rest.length < bound
        omega
      · show rest.length - 1 ≤ _
        omega
    · exact hnext

theorem alignment_progress {k : Cursor} : Progress k.rest.length (alignment k) := by
  unfold alignment
  split
  · rename_i rest hrest
    have hlen := run_length ⟨k.offset + 1, rest⟩
    simp only
    split
    · exact Progress.fail
    · split
      · show (Cursor.run ⟨k.offset + 1, rest⟩).2.rest.length ≤ _
        rw [hrest, List.length_cons]
        simp only at hlen
        omega
      · exact Progress.fail
  · exact Nat.le_refl _

theorem format_progress {specifier : Cursor → Except Halt (List Piece × Cursor)} {k : Cursor}
    (h : ∀ next : Cursor, next.rest.length < k.rest.length →
      Progress next.rest.length (specifier next)) :
    Progress k.rest.length (format specifier k) := by
  unfold format
  split
  · rename_i rest hrest
    have hlen : k.rest.length = rest.length + 1 := by rw [hrest, List.length_cons]
    refine Progress.bind (h ⟨k.offset + 1, rest⟩ (by simp only; omega)) fun ps next hnext ↦ ?_
    exact Nat.le_trans hnext (by simp only; omega)
  · exact Nat.le_refl _

theorem placeholder_progress {bound : Nat}
    {specifier : Cursor → Except Halt (List Piece × Cursor)} {opening : Cursor} {rest : List Char}
    (hbound : rest.length < bound)
    (h : ∀ next : Cursor, next.rest.length < rest.length →
      Progress next.rest.length (specifier next)) :
    Progress rest.length (placeholder bound specifier opening rest) := by
  refine Progress.bind (path_progress hbound) fun selectors k hk ↦ ?_
  refine Progress.bind alignment_progress fun alignment k' hk' ↦ ?_
  refine Progress.bind (format_progress fun next hnext ↦ h next ?_) fun format k'' hk'' ↦ ?_
  · simp only at hk
    omega
  · simp only at hk ⊢
    split
    · rename_i rest' hrest
      have hlen : k''.rest.length = rest'.length + 1 := by rw [hrest, List.length_cons]
      show rest'.length ≤ rest.length
      omega
    · exact Progress.fail
    · exact Progress.unclosed

/-- **The bound is never met.** A bound above the length of the text is enough, whatever the scan
that looks ahead. -/
theorem pieces_progress {mode : EscapeMode} {closes : List Char → Bool} :
    ∀ {bound : Nat} {scope : Scope} {k : Cursor}, k.rest.length < bound →
      Progress k.rest.length (pieces mode closes bound scope k)
  | bound + 1, scope, k, h => by
    unfold pieces
    split
    · exact Nat.le_refl _
    · rename_i c width rest hfront
      have hlen := length_lt_of_front_char hfront
      refine Progress.bind (pieces_progress (by simp only; omega)) fun ps next hnext ↦ ?_
      exact Nat.le_trans hnext (by simp only; omega)
    · rename_i rest hfront
      have hlen := length_eq_of_front_opening hfront
      split
      · refine Progress.bind (placeholder_progress (by omega) fun next hnext ↦
          pieces_progress (by omega)) fun p next hnext ↦ ?_
        refine Progress.bind (pieces_progress (by omega)) fun ps last hlast ↦ ?_
        exact Nat.le_trans hlast (by omega)
      · exact Progress.unclosed
    · split
      · exact Progress.fail
      · exact Nat.le_refl _
    · exact Progress.fail

/-! ## The template of a text -/

/-- Reads the pieces of a whole text, with a scan of its own that looks ahead. -/
def piecesOf (mode : EscapeMode) (closes : List Char → Bool) (source : String) :
    Except Halt (List Piece × Cursor) :=
  pieces mode closes (source.toList.length + 1) .root (.ofString source)

theorem piecesOf_ne_exhausted {mode : EscapeMode} {closes : List Char → Bool} {source : String} :
    piecesOf mode closes source ≠ .error .exhausted := by
  intro h
  have hp : Progress source.toList.length (piecesOf mode closes source) :=
    pieces_progress (Nat.lt_succ_self _)
  rw [h] at hp
  exact hp

/-- The template that a text is, read with a scan of its own that looks ahead. -/
def parseWith (mode : EscapeMode) (closes : List Char → Bool) (source : String) :
    Except SyntaxError Template :=
  match h : piecesOf mode closes source with
  | .ok (ps, _) => .ok (Piece.gather ps)
  | .error (.malformed e) => .error e
  | .error .exhausted => absurd h piecesOf_ne_exhausted

theorem parseWith_eq_ok_iff {mode : EscapeMode} {closes : List Char → Bool} {source : String}
    {t : Template} :
    parseWith mode closes source = .ok t ↔
      ∃ ps k, piecesOf mode closes source = .ok (ps, k) ∧ Piece.gather ps = t := by
  unfold parseWith
  split
  case h_1 => simp_all
  case h_2 => simp_all
  case h_3 h => exact absurd h piecesOf_ne_exhausted

theorem parseWith_eq_error_iff {mode : EscapeMode} {closes : List Char → Bool} {source : String}
    {e : SyntaxError} :
    parseWith mode closes source = .error e ↔
      piecesOf mode closes source = .error (.malformed e) := by
  unfold parseWith
  split
  case h_1 => simp_all
  case h_2 => simp_all
  case h_3 h => exact absurd h piecesOf_ne_exhausted

end Parser

namespace Template

/-- The template that a text is under an escape mode. -/
def parse (mode : EscapeMode) (source : String) : Except SyntaxError Template :=
  Parser.parseWith mode (Parser.closes mode) source

end Template

end TextTemplate
