import TextTemplate.Unicode.Letters

/-!
# Settings

What a caller chooses once for many templates: how names are compared, how literal braces are
written, what happens to a placeholder that cannot be rendered, and whether parsed templates are
kept. Settings are plain data, and nothing changes them during a call.
-/

namespace TextTemplate

/-- How the names of a template are compared with the names in the data. -/
inductive CaseSensitivity where
  | sensitive
  | insensitive
  deriving DecidableEq, Repr

/-- Whether two names are the same; without regard to case, character for character in their
lower-case forms. -/
def CaseSensitivity.same : CaseSensitivity → String → String → Bool
  | .sensitive, a, b => a == b
  | .insensitive, a, b => Unicode.lowerCaseText a == Unicode.lowerCaseText b

namespace CaseSensitivity

/-- Either way of comparing asks whether two texts are equal: the names, or their lower-case forms. -/
theorem equivalence_same (case : CaseSensitivity) :
    Equivalence fun a b ↦ case.same a b = true where
  refl a := by cases case <;> exact beq_self_eq_true _
  symm h := by cases case <;> exact BEq.symm h
  trans h h' := by cases case <;> exact BEq.trans h h'

theorem same_insensitive {a b : String} (h : sensitive.same a b = true) :
    insensitive.same a b = true := by
  obtain rfl : a = b := eq_of_beq h
  exact insensitive.equivalence_same.refl a

/-- A name is compared with others as any name is that is the same. -/
theorem same_eq_of_same {case : CaseSensitivity} {a b : String} (h : case.same a b = true) :
    case.same a = case.same b := by
  have hcase := case.equivalence_same
  funext c
  rw [Bool.eq_iff_iff]
  exact ⟨hcase.trans (hcase.symm h), hcase.trans h⟩

end CaseSensitivity

/-- How a literal brace is written: twice, or after a backslash. -/
inductive EscapeMode where
  | doubledBrace
  | backslash
  deriving DecidableEq, Repr

/-- What is written for a placeholder that cannot be rendered: nothing, since the call fails; the
fallback token; or the placeholder as it stands in the template. -/
inductive ErrorAction where
  | abort
  | substitute
  | maintainTokens
  deriving DecidableEq, Repr

/-- The choices of a caller. -/
structure Settings where
  caseSensitivity : CaseSensitivity := .sensitive
  escapeMode : EscapeMode := .doubledBrace
  errorAction : ErrorAction := .abort
  fallbackToken : String := ""
  cacheTemplates : Bool := true
  cacheCapacity : Nat := 512
  deriving DecidableEq, Repr

namespace Settings

/-- Settings under which a failed placeholder becomes the given token. -/
def substituting (s : Settings) (token : String) : Settings :=
  { s with errorAction := .substitute, fallbackToken := token }

end Settings

end TextTemplate
