import Mathlib.Data.List.TakeWhile
import TextTemplate.Template.Basic

/-!
# What a head is

A specifier has a head if its opening literal begins with one, and the scan that finds it goes from
left to right: over an identifier, then perhaps over options, then perhaps over a colon. `Opens`
says how a text with a head is written, without a scan: its parts stand behind one another, and each
is as long as it can be. `extract?_spec` says that the scan finds these parts, and that it finds
them in every text that begins with a head.

The parts make up the whole text. So what is left for the body has a place in the source that can be
told from the parts in front of it, and that place is never inside of a character.
-/

namespace TextTemplate.FormatterHead

/-! ## Identifiers -/

/-- A letter or an underscore, and behind it letters, digits and underscores, all of them ASCII. -/
inductive IsIdentifier : List Char → Prop
  | mk {c : Char} {cs : List Char} : startsIdentifier c = true →
      (∀ d ∈ cs, continuesIdentifier d = true) → IsIdentifier (c :: cs)

/-- The longest identifier that a text begins with. -/
structure IsLongestIdentifier (name text : List Char) : Prop where
  identifier : IsIdentifier name
  begins : name <+: text
  longest : ∀ other, IsIdentifier other → other <+: text → other.length ≤ name.length

theorem continuesIdentifier_of_starts {c : Char} (h : startsIdentifier c = true) :
    continuesIdentifier c = true := by
  rw [startsIdentifier, Bool.or_eq_true] at h
  rw [continuesIdentifier, Bool.or_eq_true, Char.isAlphanum, Bool.or_eq_true]
  exact h.imp_left Or.inl

theorem IsIdentifier.continues {name : List Char} (h : IsIdentifier name) :
    ∀ c ∈ name, continuesIdentifier c = true := by
  obtain ⟨hstart, hrest⟩ := h
  intro d hd
  rcases List.mem_cons.mp hd with rfl | hd
  · exact continuesIdentifier_of_starts hstart
  · exact hrest d hd

theorem IsIdentifier.concat {name : List Char} (h : IsIdentifier name) {c : Char}
    (hc : continuesIdentifier c = true) : IsIdentifier (name ++ [c]) := by
  obtain ⟨hstart, hrest⟩ := h
  refine .mk hstart fun d hd ↦ ?_
  rcases List.mem_append.mp hd with hd | hd
  · exact hrest d hd
  · obtain rfl := List.mem_singleton.mp hd
    exact hc

/-- An identifier is the longest one if what follows cannot be a part of it. -/
theorem isLongestIdentifier_append_iff {name rest : List Char} :
    IsLongestIdentifier name (name ++ rest) ↔
      IsIdentifier name ∧ ∀ c ∈ rest.head?, continuesIdentifier c = false := by
  constructor
  · intro h
    refine ⟨h.identifier, fun c hc ↦ ?_⟩
    obtain ⟨rest, rfl⟩ := List.head?_eq_some_iff.mp hc
    rw [Bool.eq_false_iff]
    intro hcontinues
    have hbegins : name ++ [c] <+: name ++ c :: rest := ⟨rest, List.append_assoc name [c] rest⟩
    have hlength := h.longest _ (h.identifier.concat hcontinues) hbegins
    rw [List.length_append, List.length_singleton] at hlength
    omega
  · rintro ⟨hname, hrest⟩
    refine ⟨hname, List.prefix_append name rest, fun other hother hbegins ↦ ?_⟩
    by_contra hlonger
    -- A longer identifier goes on with the character that follows.
    obtain ⟨more, rfl⟩ := List.prefix_of_prefix_length_le (List.prefix_append name rest) hbegins
      (Nat.le_of_lt (Nat.not_le.mp hlonger))
    cases more with
    | nil => exact hlonger (Nat.le_of_eq (congrArg List.length (List.append_nil name)))
    | cons c more =>
      obtain ⟨rest, rfl⟩ := (List.prefix_append_right_inj name).mp hbegins
      have hcontinues := hother.continues c (List.mem_append_right name List.mem_cons_self)
      rw [hrest c rfl] at hcontinues
      exact Bool.noConfusion hcontinues

/-! ## The scan, part by part -/

theorem identifier_append {name rest : List Char} (h : IsLongestIdentifier name (name ++ rest)) :
    identifier (name ++ rest) = (name, rest) := by
  obtain ⟨⟨hstart, hcs⟩, hrest⟩ := isLongestIdentifier_append_iff.mp h
  rw [List.cons_append, identifier, if_pos hstart, List.takeWhile_append_of_pos hcs,
    List.dropWhile_append_of_pos hcs]
  cases rest with
  | nil => rw [List.takeWhile_nil, List.dropWhile_nil, List.append_nil]
  | cons d rest =>
    have hd : ¬continuesIdentifier d = true := Bool.eq_false_iff.mp (hrest d rfl)
    rw [List.takeWhile_cons_of_neg hd, List.dropWhile_cons_of_neg hd, List.append_nil]

/-- The scan for an identifier gives nothing, or the longest one. -/
theorem identifier_cases (text : List Char) :
    identifier text = ([], text) ∨
      ∃ name rest, text = name ++ rest ∧ IsLongestIdentifier name text := by
  cases text with
  | nil => exact Or.inl rfl
  | cons c cs =>
    by_cases hstart : startsIdentifier c = true
    · refine Or.inr ⟨c :: cs.takeWhile continuesIdentifier, cs.dropWhile continuesIdentifier, ?_⟩
      have htext : c :: cs = c :: cs.takeWhile continuesIdentifier ++
          cs.dropWhile continuesIdentifier := by
        rw [List.cons_append, List.takeWhile_append_dropWhile]
      refine ⟨htext, ?_⟩
      rw [htext, isLongestIdentifier_append_iff]
      refine ⟨.mk hstart fun d hd ↦ List.mem_takeWhile_imp hd, fun d hd ↦ ?_⟩
      have hstop := List.head?_dropWhile_not continuesIdentifier cs
      rw [Option.mem_def.mp hd] at hstop
      exact hstop
    · rw [identifier, if_neg hstart]
      exact Or.inl rfl

/-- The options end at the first closing parenthesis. -/
theorem options?_eq_some_iff {cs options rest : List Char} :
    options? cs = some (options, rest) ↔ ')' ∉ options ∧ cs = options ++ ')' :: rest := by
  have hclose : ¬(')' != ')') = true := by decide
  constructor
  · intro h
    have hcs := List.takeWhile_append_dropWhile (p := (· != ')')) (l := cs)
    have hstop := List.head?_dropWhile_not (· != ')') cs
    rw [options?] at h
    generalize cs.dropWhile (· != ')') = behind at h hcs hstop
    cases behind with
    | nil => exact absurd h nofun
    | cons c more =>
      obtain ⟨rfl, rfl⟩ := Prod.mk.inj (Option.some.inj h)
      obtain rfl : c = ')' := by simpa using hstop
      exact ⟨fun hmem ↦ hclose (List.mem_takeWhile_imp (p := (· != ')')) hmem), hcs.symm⟩
  · rintro ⟨hoptions, rfl⟩
    have hpass : ∀ c ∈ options, (c != ')') = true := fun c hc ↦
      bne_iff_ne.mpr fun heq ↦ hoptions (heq ▸ hc)
    rw [options?, List.takeWhile_append_of_pos hpass, List.dropWhile_append_of_pos hpass,
      List.takeWhile_cons_of_neg (by decide), List.dropWhile_cons_of_neg (by decide),
      List.append_nil]

/-- A colon in front, if there is to be one. -/
def colonText (colon : Bool) : List Char := if colon then [':'] else []

theorem dropColon_eq_iff {cs rest : List Char} :
    dropColon cs = rest ↔ ∃ colon, cs = colonText colon ++ rest ∧
      (colon = false → ∀ more, rest ≠ ':' :: more) := by
  constructor
  · rintro rfl
    unfold dropColon
    split
    · exact ⟨true, rfl, nofun⟩
    · rename_i hcs
      exact ⟨false, rfl, fun _ ↦ hcs⟩
  · rintro ⟨colon, rfl, hcolon⟩
    cases colon with
    | true => rfl
    | false =>
      have hrest : colonText false ++ rest = rest := rfl
      unfold dropColon
      split
      · rename_i more hmore
        exact absurd (hrest.symm.trans hmore) (hcolon rfl more)
      · exact hrest

section

variable {name rest : List Char}

theorem split?_colon (h : IsLongestIdentifier name (name ++ ':' :: rest)) :
    split? (name ++ ':' :: rest) = some (name, none, rest) := by
  rw [split?, identifier_append h]
  cases h.identifier with
  | mk => rfl

theorem split?_parenthesis (h : IsLongestIdentifier name (name ++ '(' :: rest)) :
    split? (name ++ '(' :: rest) = (options? rest).map fun (options, more) ↦
      (name, some options, dropColon more) := by
  rw [split?, identifier_append h]
  cases h.identifier with
  | mk => rfl

/-- The longest identifier is a name only if a colon or a parenthesis follows. -/
theorem split?_of_ne (h : IsLongestIdentifier name (name ++ rest))
    (hcolon : ∀ more, rest ≠ ':' :: more) (hparenthesis : ∀ more, rest ≠ '(' :: more) :
    split? (name ++ rest) = none := by
  rw [split?, identifier_append h]
  split
  · rfl
  · rename_i hpair
    exact absurd (Prod.mk.inj hpair).2 (hparenthesis _)
  · rename_i hpair
    exact absurd (Prod.mk.inj hpair).2 (hcolon _)
  · rfl

end

/-! ## Texts with a head -/

/-- The characters of a head: its name, its options in parentheses, and a colon. -/
def chars (name : List Char) (options : Option (List Char)) (colon : Bool) : List Char :=
  name ++ (options.elim [] fun o ↦ '(' :: o ++ [')']) ++ colonText colon

theorem chars_colon_append (name rest : List Char) :
    chars name none true ++ rest = name ++ ':' :: rest := by
  simp [chars, colonText]

theorem chars_options_append (name o rest : List Char) (colon : Bool) :
    chars name (some o) colon ++ rest = name ++ '(' :: (o ++ ')' :: (colonText colon ++ rest)) := by
  simp [chars]

/-- A text begins with a head and goes on with the rest. Behind options the colon may be left out,
but then none follows. -/
structure Opens (text name : List Char) (options : Option (List Char)) (colon : Bool)
    (rest : List Char) : Prop where
  isName : IsLongestIdentifier name text
  isOptions : ∀ o ∈ options, ')' ∉ o
  isColon : colon = false → options ≠ none ∧ ∀ more, rest ≠ ':' :: more
  eq : text = chars name options colon ++ rest

/-- A text begins with an identifier that a colon follows, or a parenthesis that is closed. -/
structure Names (text name : List Char) : Prop where
  isName : IsLongestIdentifier name text
  follows : (∃ rest, text = name ++ ':' :: rest) ∨
    ∃ rest, text = name ++ '(' :: rest ∧ ')' ∈ rest

section

variable {text name rest : List Char} {options : Option (List Char)}

theorem Opens.of_split? (h : split? text = some (name, options, rest)) :
    ∃ colon, Opens text name options colon rest := by
  rcases identifier_cases text with hnone | ⟨name', rest', rfl, hname⟩
  · rw [FormatterHead.split?, hnone] at h
    exact absurd h nofun
  · by_cases hcolon : ∃ more, rest' = ':' :: more
    · obtain ⟨more, rfl⟩ := hcolon
      rw [split?_colon hname] at h
      obtain ⟨rfl, hparts⟩ := Prod.mk.inj (Option.some.inj h)
      obtain ⟨rfl, rfl⟩ := Prod.mk.inj hparts
      exact ⟨true, hname, nofun, nofun, (chars_colon_append name' more).symm⟩
    · rw [not_exists] at hcolon
      by_cases hparenthesis : ∃ more, rest' = '(' :: more
      · obtain ⟨more, rfl⟩ := hparenthesis
        rw [split?_parenthesis hname] at h
        obtain ⟨⟨o, behind⟩, hoptions, hall⟩ := Option.map_eq_some_iff.mp h
        obtain ⟨rfl, hparts⟩ := Prod.mk.inj hall
        obtain ⟨rfl, hrest⟩ := Prod.mk.inj hparts
        obtain ⟨hclosed, rfl⟩ := options?_eq_some_iff.mp hoptions
        obtain ⟨colon, rfl, hfree⟩ := dropColon_eq_iff.mp hrest
        refine ⟨colon, hname, ?_, fun hc ↦ ⟨nofun, hfree hc⟩, ?_⟩
        · rintro _ ⟨⟩
          exact hclosed
        · exact (chars_options_append name' o rest colon).symm
      · rw [split?_of_ne hname hcolon (not_exists.mp hparenthesis)] at h
        exact absurd h nofun

theorem Opens.split? {colon : Bool} (h : Opens text name options colon rest) :
    split? text = some (name, options, rest) := by
  obtain ⟨hname, hoptions, hcolon, rfl⟩ := h
  cases options with
  | none =>
    cases colon with
    | false => exact absurd rfl (hcolon rfl).1
    | true =>
      rw [chars_colon_append] at hname ⊢
      exact split?_colon hname
  | some o =>
    have hrest : dropColon (colonText colon ++ rest) = rest :=
      dropColon_eq_iff.mpr ⟨colon, rfl, fun hc ↦ (hcolon hc).2⟩
    rw [chars_options_append] at hname ⊢
    rw [split?_parenthesis hname, options?_eq_some_iff.mpr ⟨hoptions o rfl, rfl⟩, Option.map_some]
    exact congrArg (fun more ↦ some (name, some o, more)) hrest

/-- The parts of a head can be told from its name and from what follows. -/
theorem split?_isSome_iff : (split? text).isSome ↔ ∃ name, Names text name := by
  rw [Option.isSome_iff_exists]
  constructor
  · rintro ⟨⟨name, options, rest⟩, h⟩
    obtain ⟨colon, h⟩ := Opens.of_split? h
    refine ⟨name, h.isName, ?_⟩
    cases options with
    | none =>
      cases colon with
      | false => exact absurd rfl (h.isColon rfl).1
      | true => exact Or.inl ⟨rest, h.eq.trans (chars_colon_append name rest)⟩
    | some o =>
      exact Or.inr ⟨_, h.eq.trans (chars_options_append name o rest colon),
        List.mem_append_right o List.mem_cons_self⟩
  · rintro ⟨name, hname, ⟨rest, rfl⟩ | ⟨rest, rfl, hclosed⟩⟩
    · exact ⟨_, split?_colon hname⟩
    · rw [split?_parenthesis hname]
      obtain ⟨options, more, rfl, hoptions⟩ := List.eq_append_cons_of_mem hclosed
      rw [options?_eq_some_iff.mpr ⟨hoptions, rfl⟩]
      exact ⟨_, rfl⟩

end

/-! ## Heads of templates -/

/-- What is left of a literal behind a head, if anything is left. -/
def restOf (first : Literal) (front rest : List Char) : Template :=
  if rest = [] then []
  else [.literal ⟨String.ofList rest,
    ⟨min (first.span.start + byteWidth front) first.span.stop, first.span.stop⟩⟩]

theorem bodyOf_eq {first : Literal} {front rest : List Char} (h : first.text.toList = front ++ rest)
    (others : Template) : bodyOf first rest others = restOf first front rest ++ others := by
  have hwidth : first.text.utf8ByteSize - byteWidth rest = byteWidth front := by
    rw [← byteWidth_toList, h, byteWidth_append, Nat.add_sub_cancel]
  cases rest with
  | nil => rfl
  | cons c rest =>
    rw [bodyOf, restOf, hwidth]
    rfl

theorem extract?_literal_isSome_iff {first : Literal} {others : Template} :
    (extract? (.literal first :: others)).isSome ↔ ∃ name, Names first.text.toList name := by
  rw [extract?, Option.isSome_map, split?_isSome_iff]

/-- A head is its parts, and the body is what they leave of the opening literal and the nodes behind
it. -/
theorem extract?_literal_eq_some_iff {first : Literal} {others : Template} {head : FormatterHead} :
    extract? (.literal first :: others) = some head ↔ ∃ colon rest,
      Opens first.text.toList head.name.toList (head.options.map String.toList) colon rest ∧
        head.body = restOf first
          (chars head.name.toList (head.options.map String.toList) colon) rest ++ others := by
  have htoList : String.toList ∘ String.ofList = id := funext fun _ ↦ String.toList_ofList
  have hofList : String.ofList ∘ String.toList = id := funext fun _ ↦ String.ofList_toList
  constructor
  · intro h
    obtain ⟨⟨name, options, rest⟩, hsplit, rfl⟩ := Option.map_eq_some_iff.mp h
    obtain ⟨colon, hopens⟩ := Opens.of_split? hsplit
    refine ⟨colon, rest, ?_⟩
    simp only [String.toList_ofList, Option.map_map, htoList, Option.map_id_fun, id]
    exact ⟨hopens, bodyOf_eq hopens.eq others⟩
  · rintro ⟨colon, rest, hopens, hbody⟩
    rw [← bodyOf_eq hopens.eq] at hbody
    rw [extract?, hopens.split?, Option.map_some]
    simp only [String.ofList_toList, Option.map_map, hofList, Option.map_id_fun, id, ← hbody]
    cases head
    rfl

/-- **Heads.** A specifier has a head if and only if it opens with a literal, and the longest
identifier at the front of its text is followed by a colon, or by a parenthesis that is closed in
the same text. The parts of the head make up that text together with the rest of it: the identifier,
the options up to the first closing parenthesis, and one colon if one follows. The body is what
there is of the rest, and then the other nodes as they are. -/
theorem extract?_spec (t : Template) :
    ((extract? t).isSome ↔ ∃ first others name, t = .literal first :: others ∧
        Names first.text.toList name) ∧
      ∀ head, extract? t = some head ↔ ∃ first others colon rest, t = .literal first :: others ∧
        Opens first.text.toList head.name.toList (head.options.map String.toList) colon rest ∧
        head.body = restOf first
          (chars head.name.toList (head.options.map String.toList) colon) rest ++ others := by
  match t with
  | [] => exact ⟨⟨nofun, nofun⟩, fun _ ↦ ⟨nofun, nofun⟩⟩
  | .placeholder p :: others => exact ⟨⟨nofun, nofun⟩, fun _ ↦ ⟨nofun, nofun⟩⟩
  | .literal first :: others =>
    constructor
    · rw [extract?_literal_isSome_iff]
      constructor
      · rintro ⟨name, hname⟩
        exact ⟨first, others, name, rfl, hname⟩
      · rintro ⟨_, _, name, ⟨⟩, hname⟩
        exact ⟨name, hname⟩
    · intro head
      rw [extract?_literal_eq_some_iff]
      constructor
      · rintro ⟨colon, rest, hopens, hbody⟩
        exact ⟨first, others, colon, rest, rfl, hopens, hbody⟩
      · rintro ⟨_, _, colon, rest, ⟨⟩, hopens, hbody⟩
        exact ⟨colon, rest, hopens, hbody⟩

example : extract? [.literal ⟨"pad(5|*):x", ⟨3, 13⟩⟩] =
    some ⟨"pad", some "5|*", [.literal ⟨"x", ⟨12, 13⟩⟩]⟩ := rfl

example : extract? [.literal ⟨"f(open", ⟨0, 6⟩⟩] = none := rfl

end TextTemplate.FormatterHead
