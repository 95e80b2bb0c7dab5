import TextTemplate.Report

/-!
# Lines and columns

The lines of a text, laid one behind the other, are the text. So a front of the text ends in one of
its lines, and how many lines lie before that one and how many characters of it belong to the front
is the line and the column of what stands behind the front.

## Where a front ends

A front may end where a line does. What stands behind it is then the next line, so it counts as the
front of that line, of which it has nothing yet. Only behind the whole text is there no next line, and
there a reader is one column behind the last one.
-/

namespace TextTemplate.Report

/-! ## The lines are the text -/

theorem flatten_splitLines (text : List Char) : (splitLines text).flatten = text := by
  fun_induction splitLines text with
  | case1 => rfl
  | case2 cs ih =>
    rw [List.flatten_cons, ih]
    rfl
  | case3 c cs _ _ ih =>
    rw [List.flatten_cons, ih]
    rfl
  | case4 c cs _ _ hlines ih =>
    rw [hlines] at ih
    simp [← ih]
  | case5 c cs _ _ line lines hlines ih =>
    rw [hlines] at ih
    simp [← ih]

theorem splitLines_ne_nil {text : List Char} (h : text ≠ []) : splitLines text ≠ [] := by
  intro hnil
  rw [← flatten_splitLines text, hnil] at h
  exact h rfl

/-! ## Positions -/

/-- Behind the front of a text stands what has this line and this column, as a reader counts. -/
def Position (text before : List Char) (line column : Nat) : Prop :=
  ∃ earlier front rest later, splitLines text = earlier ++ (front ++ rest) :: later ∧
    (rest = [] → later = []) ∧ before = earlier.flatten ++ front ∧
    line = earlier.length + 1 ∧ column = front.length + 1

/-- A front of what lists make together ends in one of the lists. -/
theorem exists_split_of_flatten {α : Type} {lines : List (List α)} {before behind : List α}
    (hne : lines ≠ []) (h : lines.flatten = before ++ behind) :
    ∃ earlier front rest later, lines = earlier ++ (front ++ rest) :: later ∧
      (rest = [] → later = []) ∧ before = earlier.flatten ++ front := by
  induction lines generalizing before with
  | nil => exact absurd rfl hne
  | cons line lines ih =>
    rw [List.flatten_cons] at h
    by_cases hlast : lines = []
    · subst hlast
      exact ⟨[], before, behind, [], by simpa using h, fun _ ↦ rfl, rfl⟩
    · -- The front has the whole of the first list, or it ends before the end of that list.
      have hcut : (∃ others, before = line ++ others ∧ lines.flatten = others ++ behind) ∨
          ∃ rest, rest ≠ [] ∧ line = before ++ rest := by
        rcases List.append_eq_append_iff.mp h with ⟨others, hbefore, hlines⟩ | ⟨rest, hline, hbehind⟩
        · exact Or.inl ⟨others, hbefore, hlines⟩
        · by_cases hrest : rest = []
          · subst hrest
            exact Or.inl ⟨[], by simpa using hline.symm, by simpa using hbehind.symm⟩
          · exact Or.inr ⟨rest, hrest, hline⟩
      rcases hcut with ⟨others, rfl, hlines⟩ | ⟨rest, hrest, rfl⟩
      · obtain ⟨earlier, front, rest, later, rfl, hend, rfl⟩ := ih hlast hlines
        exact ⟨line :: earlier, front, rest, later, rfl, hend, by simp⟩
      · exact ⟨[], before, rest, lines, rfl, fun h ↦ absurd h hrest, rfl⟩

theorem exists_position {text before behind : List Char} (hne : text ≠ [])
    (h : text = before ++ behind) : ∃ line column, Position text before line column := by
  have hflatten : (splitLines text).flatten = before ++ behind := by rw [flatten_splitLines, h]
  obtain ⟨earlier, front, rest, later, hlines, hend, hbefore⟩ :=
    exists_split_of_flatten (splitLines_ne_nil hne) hflatten
  exact ⟨_, _, earlier, front, rest, later, hlines, hend, hbefore, rfl, rfl⟩

/-- Two places of a text have two positions. -/
theorem Position.eq {text before before' : List Char} {line column : Nat}
    (h : Position text before line column) (h' : Position text before' line column) :
    before = before' := by
  obtain ⟨earlier, front, rest, later, hlines, _, rfl, hline, hcolumn⟩ := h
  obtain ⟨earlier', front', rest', later', hlines', _, rfl, hline', hcolumn'⟩ := h'
  rw [hlines] at hlines'
  obtain ⟨rfl, hbehind⟩ := List.append_inj hlines' (by omega)
  obtain ⟨rfl, -⟩ := List.append_inj (List.cons.inj hbehind).1 (by omega)
  rfl

theorem Position.length_le {text before : List Char} {line column : Nat}
    (h : Position text before line column) : before.length ≤ text.length := by
  obtain ⟨earlier, front, rest, later, hlines, _, rfl, _, _⟩ := h
  rw [← flatten_splitLines text, hlines]
  simp

/-! ## Finding the line -/

theorem placeLines_append (index offset : Nat) (lines others : List (List Char)) :
    placeLines index offset (lines ++ others) = placeLines index offset lines ++
      placeLines (index + lines.length) (offset + lines.flatten.length) others := by
  induction lines generalizing index offset with
  | nil => simp [placeLines]
  | cons line lines ih =>
    simp only [List.cons_append, placeLines, ih, List.length_cons, List.flatten_cons,
      List.length_append]
    congr 3 <;> omega

theorem le_offset_of_mem_placeLines {index offset : Nat} {lines : List (List Char)} {l : Line}
    (h : l ∈ placeLines index offset lines) : offset ≤ l.offset := by
  induction lines generalizing index offset with
  | nil => simp [placeLines] at h
  | cons line lines ih =>
    rcases List.mem_cons.mp h with rfl | h
    · exact Nat.le_refl _
    · have hle := ih h
      omega

/-- The line that is found is the one which has the place, and the last one for the end of the
text. -/
theorem lineAt?_of_split {text line : List Char} {earlier later : List (List Char)} {offset : Nat}
    (hlines : splitLines text = earlier ++ line :: later)
    (hstart : earlier.flatten.length ≤ offset)
    (hstop : offset < earlier.flatten.length + line.length ∨ later = [])
    (hlength : offset ≤ text.length) :
    lineAt? (linesOf text) text.length offset =
      some ⟨earlier.length, earlier.flatten.length, line.length, Unicode.trimEnd line⟩ := by
  have hall : linesOf text = placeLines 0 0 earlier ++
      ⟨earlier.length, earlier.flatten.length, line.length, Unicode.trimEnd line⟩ ::
        placeLines (earlier.length + 1) (earlier.flatten.length + line.length) later := by
    rw [linesOf, hlines, placeLines_append, placeLines, Nat.zero_add, Nat.zero_add]
  -- No later line begins at or before the place, so the line is the last that does.
  have hlater : (placeLines (earlier.length + 1) (earlier.flatten.length + line.length)
      later).filter (fun l ↦ l.offset ≤ offset) = [] := by
    rcases hstop with hstop | rfl
    · rw [List.filter_eq_nil_iff]
      intro l hl
      have hle := le_offset_of_mem_placeLines hl
      simp only [decide_eq_true_eq]
      omega
    · rfl
  rw [lineAt?, if_neg (by omega), hall, List.filter_append,
    List.filter_cons_of_pos (by simpa using hstart), hlater]
  simp

theorem Position.lineAt? {text before : List Char} {line column : Nat}
    (h : Position text before line column) :
    ∃ l, lineAt? (linesOf text) text.length before.length = some l ∧ l.index + 1 = line ∧
      before.length - l.offset + 1 = column := by
  have hlength := h.length_le
  obtain ⟨earlier, front, rest, later, hlines, hend, rfl, rfl, rfl⟩ := h
  refine ⟨_, lineAt?_of_split hlines (by simp) ?_ hlength, rfl, by simp⟩
  rcases rest with - | ⟨c, rest⟩
  · exact Or.inr (hend rfl)
  · left
    simp

theorem exists_lineAt? {text : List Char} {offset : Nat} (hne : text ≠ [])
    (hle : offset ≤ text.length) :
    ∃ l, Report.lineAt? (linesOf text) text.length offset = some l := by
  obtain ⟨line, column, hposition⟩ := exists_position hne (List.take_append_drop offset text).symm
  obtain ⟨l, hl, _⟩ := hposition.lineAt?
  rw [List.length_take_of_le hle] at hl
  exact ⟨l, hl⟩

end TextTemplate.Report
