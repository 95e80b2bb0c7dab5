import TextTemplate.Proofs.Cache
import TextTemplate.Proofs.Decoding

/-!
# Templates without placeholders

A text that the plain decoder of its escape mode can read is a template without placeholders, and
there is no other such template. Its literal text is what the decoder gives, and rendering it gives
that text back, whatever the arguments, the sources and the formatters are.

The reader and the decoder are compared through `Spells`, which says that a text is made of the
spellings of the characters of another one. Where a brace is doubled there is one spelling of each
character only, so the text can be recovered from what it stands for.
-/

namespace TextTemplate

namespace Parser

/-! ## Texts made of spellings -/

/-- The first text spells the characters of the second, one after another. -/
inductive Spells (mode : EscapeMode) : List Char → List Char → Prop
  | nil : Spells mode [] []
  | cons {unit cs ds : List Char} {c : Char} : Spelling mode unit c → Spells mode cs ds →
      Spells mode (unit ++ cs) (c :: ds)

variable {mode : EscapeMode}

theorem Spells.decode {cs ds : List Char} (h : Spells mode cs ds) :
    TextTemplate.decode mode cs = some ds := by
  induction h with
  | nil => cases mode <;> rfl
  | cons hunit _ ih => rw [hunit.decode, ih, Option.map_some]

/-- A decoder that has taken a unit off the front goes on behind it. -/
theorem spells_of_map (unit : List Char) {cs ds : List Char} {c : Char}
    (hunit : Spelling mode unit c)
    (ih : ∀ {ds}, TextTemplate.decode mode cs = some ds → Spells mode cs ds)
    (h : (TextTemplate.decode mode cs).map (c :: ·) = some ds) : Spells mode (unit ++ cs) ds := by
  obtain ⟨ds', hds, rfl⟩ := Option.map_eq_some_iff.mp h
  exact .cons hunit (ih hds)

theorem spells_of_decodeDoubled {cs ds : List Char} (h : decodeDoubled cs = some ds) :
    Spells .doubledBrace cs ds := by
  fun_induction decodeDoubled cs generalizing ds with
  | case1 =>
    cases h
    exact .nil
  | case2 cs ih => exact spells_of_map ['{', '{'] (.doubled rfl) ih h
  | case3 cs ih => exact spells_of_map ['}', '}'] (.doubled rfl) ih h
  | case4 => exact absurd h nofun
  | case5 => exact absurd h nofun
  | case6 c cs _ _ hopen hclose ih =>
    have hbrace := isBrace_eq_false_iff.mpr ⟨hopen, hclose⟩
    exact spells_of_map [c] (.plain hbrace nofun) ih h

theorem spells_of_decodeBackslash {cs ds : List Char} (h : decodeBackslash cs = some ds) :
    Spells .backslash cs ds := by
  fun_induction decodeBackslash cs generalizing ds with
  | case1 =>
    cases h
    exact .nil
  | case2 => exact absurd h nofun
  | case3 cs ih => exact spells_of_map ['\\', 'n'] (.escaped rfl) ih h
  | case4 cs ih => exact spells_of_map ['\\', 't'] (.escaped rfl) ih h
  | case5 c cs hn ht hmem ih =>
    have hescape : unescape c = some c := by
      simp only [List.mem_cons, List.not_mem_nil, or_false] at hmem
      rcases hmem with rfl | rfl | rfl | rfl | rfl | rfl <;> rfl
    exact spells_of_map ['\\', c] (.escaped hescape) ih h
  | case6 => exact absurd h nofun
  | case7 => exact absurd h nofun
  | case8 => exact absurd h nofun
  | case9 c cs hlast _ _ hescape hopen hclose ih =>
    -- A backslash was caught above, at the end of the text or in front of a character.
    have hback : c ≠ '\\' := by
      rintro rfl
      cases cs with
      | nil => exact hlast rfl rfl
      | cons e es => exact hescape e es rfl rfl
    have hbrace := isBrace_eq_false_iff.mpr ⟨hopen, hclose⟩
    exact spells_of_map [c] (.plain hbrace fun _ ↦ hback) ih h

/-- The decoder accepts the texts that are made of spellings. -/
theorem decode_eq_some_iff {cs ds : List Char} :
    TextTemplate.decode mode cs = some ds ↔ Spells mode cs ds := by
  constructor
  · cases mode with
    | doubledBrace => exact spells_of_decodeDoubled
    | backslash => exact spells_of_decodeBackslash
  · exact Spells.decode

/-- A character of literal text where a doubled brace is a literal one. -/
def doubleBrace (c : Char) : List Char := if isBrace c then [c, c] else [c]

theorem Spelling.eq_doubleBrace {unit : List Char} {c : Char}
    (h : Spelling .doubledBrace unit c) : unit = doubleBrace c := by
  cases h with
  | plain hbrace _ => simp [doubleBrace, hbrace]
  | doubled hbrace => simp [doubleBrace, hbrace]

/-- Where braces are doubled, a text is spelled in one way. -/
theorem Spells.eq_flatMap_doubleBrace {cs ds : List Char} (h : Spells .doubledBrace cs ds) :
    cs = ds.flatMap doubleBrace := by
  induction h with
  | nil => rfl
  | cons hunit _ ih => rw [List.flatMap_cons, ← hunit.eq_doubleBrace, ← ih]

end Parser

/-! ## Literal templates -/

namespace Template

@[simp] theorem hasPlaceholders_consChar (c : Char) (span : Span) (t : Template) :
    (consChar c span t).hasPlaceholders = t.hasPlaceholders := by
  cases t with
  | nil => rfl
  | cons n ns => cases n <;> rfl

theorem literalText_cons (n : Node) (ns : Template) :
    literalText (n :: ns) = n.literalText ++ literalText ns := by
  rw [literalText, literalText, List.map_cons, String.join_cons]

@[simp] theorem literalText_consChar (c : Char) (span : Span) (t : Template) :
    (consChar c span t).literalText = String.singleton c ++ t.literalText := by
  cases t with
  | nil => exact literalText_cons _ _
  | cons n ns =>
    cases n with
    | literal l =>
      rw [consChar, literalText_cons, literalText_cons, ← String.append_assoc]
      rfl
    | placeholder p => exact literalText_cons _ _

end Template

namespace Parser

variable {mode : EscapeMode} {closes : List Char → Bool}

/-- A text that was read without a placeholder spells the literal text of the template. -/
theorem Reads.spells {k next : Cursor} {ps : List Piece} (h : Reads mode closes .root k ps next)
    (hps : Template.hasPlaceholders (Piece.gather ps) = false) :
    Spells mode k.rest (Template.literalText (Piece.gather ps)).toList := by
  generalize hscope : Scope.root = scope at h
  induction h with
  | finish hk =>
    rw [hk]
    exact .nil
  | close _ => exact Scope.noConfusion hscope
  | char hunit hpass _ ih =>
    rw [Piece.gather_char, Template.hasPlaceholders_consChar] at hps
    rw [hpass.rest, Piece.gather_char, Template.literalText_consChar, String.toList_append,
      String.toList_singleton]
    exact .cons hunit (ih hps hscope)
  | bare _ _ _ _ => exact absurd hps nofun
  | formatted _ _ _ _ _ _ _ => exact absurd hps nofun

/-- A text that is made of spellings is read without a placeholder. -/
theorem Spells.reads {cs ds : List Char} (h : Spells mode cs ds) (offset : Nat) :
    ∃ ps next, Reads mode closes .root ⟨offset, cs⟩ ps next ∧
      Template.hasPlaceholders (Piece.gather ps) = false := by
  induction h generalizing offset with
  | nil => exact ⟨[], _, .finish rfl, rfl⟩
  | @cons unit cs ds c hunit _ ih =>
    obtain ⟨ps, next, hps, hliteral⟩ := ih (offset + byteWidth unit)
    refine ⟨_, next, .char hunit ⟨rfl, rfl⟩ hps, ?_⟩
    rw [Piece.gather_char, Template.hasPlaceholders_consChar, hliteral]

end Parser

/-- Rendering a template without placeholders writes its literal text. -/
theorem Renderer.exec_renderNodes_literal (r : Renderer) (inner : NestedRender) {t : Template}
    (h : t.hasPlaceholders = false) (args : List Value) (out : Output) :
    (r.renderNodes inner t args).exec out = (.ok (), out.append t.literalText) := by
  induction t generalizing out with
  | nil =>
    rw [renderNodes_nil, RenderM.exec_pure, Template.literalText, List.map_nil, String.join_nil,
      Output.append, String.append_empty]
  | cons n ns ih =>
    cases n with
    | literal l =>
      have hns : Template.hasPlaceholders ns = false := h
      rw [renderNodes_literal, RenderM.exec_bind, RenderM.exec_emit, Template.literalText_cons]
      simp only [ih hns]
      rw [Output.append, Output.append, Output.append, String.append_assoc]
      rfl
    | placeholder p => exact absurd h nofun

theorem Engine.formatTemplate_literal (e : Engine) {t : Template} (h : t.hasPlaceholders = false)
    (args : List Value) : e.formatTemplate t args = ⟨.ok t.literalText, []⟩ := by
  have hrender : e.renderer.render t args = ⟨.ok t.literalText, [], false⟩ := by
    rw [Renderer.render_eq, Renderer.exec_renderNodes_literal _ _ h, Renderer.Outcome.ofRun,
      Output.append, String.empty_append]
    rfl
  rw [formatTemplate, hrender]
  cases e.observer <;> rfl

/-- **Literal templates are decoded exactly.** A text is a template without placeholders if and only
if the decoder of the escape mode accepts it. The literal text of such a template is what the
decoder gives, and every engine under that mode gives it as the result, with any arguments and after
any operations. Where braces are doubled, the text is that result with every brace doubled. -/
theorem Template.literal_iff_decode (mode : EscapeMode) (source : String) :
    ((∃ t, parse mode source = .ok t ∧ t.hasPlaceholders = false) ↔
        (decode mode source.toList).isSome = true) ∧
      ∀ t, parse mode source = .ok t → t.hasPlaceholders = false →
        decode mode source.toList = some t.literalText.toList ∧
        (mode = .doubledBrace → source.toList = t.literalText.toList.flatMap Parser.doubleBrace) ∧
        ∀ (settings : Settings) (sources : SourceChain) (ops : List Operation) (args : List Value),
          ((Engine.withSources settings sources).after ops).settings.escapeMode = mode →
            (((Engine.withSources settings sources).after ops).format source args).1 =
              ⟨.ok t.literalText, []⟩ := by
  have hspells : ∀ t, parse mode source = .ok t → t.hasPlaceholders = false →
      Parser.Spells mode source.toList t.literalText.toList := by
    intro t hparse hliteral
    obtain ⟨ps, next, hps, rfl⟩ := parse_eq_ok_iff.mp hparse
    exact hps.spells hliteral
  refine ⟨⟨?_, ?_⟩, ?_⟩
  · rintro ⟨t, hparse, hliteral⟩
    rw [(hspells t hparse hliteral).decode, Option.isSome_some]
  · intro hdecode
    obtain ⟨ds, hds⟩ := Option.isSome_iff_exists.mp hdecode
    obtain ⟨ps, next, hps, hliteral⟩ := (Parser.decode_eq_some_iff.mp hds).reads 0
    exact ⟨_, parse_eq_ok_iff.mpr ⟨ps, next, hps, rfl⟩, hliteral⟩
  · intro t hparse hliteral
    have hspelled := hspells t hparse hliteral
    refine ⟨hspelled.decode, ?_, ?_⟩
    · rintro rfl
      exact hspelled.eq_flatMap_doubleBrace
    · intro settings sources ops args hmode
      have hempty : (Engine.withSources settings sources).Faithful := Engine.faithful_of_empty rfl
      rw [Engine.format_eq (hempty.after ops), hmode, hparse]
      simp only [Engine.formatTemplate_literal _ hliteral]
      rfl

/-- An escaped brace and a line end behind a letter of two bytes, for an engine that was told of the
escape mode after it had been asked for the text under the other one. -/
theorem Template.literal_iff_decode_escapedSample :
    let t : Template := [.literal ⟨"é\x7b\n", ⟨0, 6⟩⟩]
    let ops : List Operation := [.parse "é\\\x7b\\n", .setEscapeMode .backslash]
    let e := (Engine.withSources {} []).after ops
    parse .backslash "é\\\x7b\\n" = .ok t ∧ t.hasPlaceholders = false ∧
      e.settings.escapeMode = .backslash ∧
      (e.format "é\\\x7b\\n" []).1 = ⟨.ok "é\x7b\n", []⟩ := by
  intro t ops e
  have hparse : parse .backslash "é\\\x7b\\n" = .ok t := rfl
  have hliteral : t.hasPlaceholders = false := rfl
  have hmode : e.settings.escapeMode = .backslash := rfl
  obtain ⟨_, _, hformat⟩ := (literal_iff_decode .backslash "é\\\x7b\\n").2 t hparse hliteral
  exact ⟨hparse, hliteral, hmode, hformat {} [] ops [] hmode⟩

end TextTemplate
