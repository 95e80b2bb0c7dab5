import TextTemplate.Engine

/-!
# Descriptions

An engine written out on one line, for a person who wants to know how it is configured. What is not
data is described by its name: a source by the name that it gives itself, a formatter by the name
that it is registered under.
-/

namespace TextTemplate

namespace Description

/-- Named parts in braces behind the name of the whole. -/
def record (name : String) (parts : List (String × String)) : String :=
  name ++ " \x7b " ++ ", ".intercalate (parts.map fun p ↦ p.1 ++ ": " ++ p.2) ++ " \x7d"

/-- Items in brackets. -/
def list (items : List String) : String := "[" ++ ", ".intercalate items ++ "]"

/-- A truth value. -/
def bool (b : Bool) : String := if b then "true" else "false"

end Description

/-- A way of comparing names, described. -/
def CaseSensitivity.description : CaseSensitivity → String
  | .sensitive => "Sensitive"
  | .insensitive => "Insensitive"

/-- An escape mode, described. -/
def EscapeMode.description : EscapeMode → String
  | .doubledBrace => "DoubledBrace"
  | .backslash => "Backslash"

/-- An action, described. -/
def ErrorAction.description : ErrorAction → String
  | .abort => "Abort"
  | .substitute => "Substitute"
  | .maintainTokens => "MaintainTokens"

/-- Settings, described. -/
def Settings.description (s : Settings) : String :=
  Description.record "Settings" [
    ("case_sensitivity", s.caseSensitivity.description),
    ("escape_mode", s.escapeMode.description),
    ("error_action", s.errorAction.description),
    ("fallback_token", Quoted.text s.fallbackToken),
    ("cache_templates", Description.bool s.cacheTemplates),
    ("cache_capacity", s.cacheCapacity.repr)]

/-- A chain of sources, described. -/
def SourceChain.description (sources : SourceChain) : String :=
  Description.record "SourceChain"
    [("sources", Description.list (sources.map ValueSource.description))]

/-- The names of a registry in order, described. -/
def FormatterRegistry.description (r : FormatterRegistry) : String :=
  let names := r.named.keys.mergeSort fun a b ↦ decide (a ≤ b)
  "FormatterRegistry \x7b named: " ++ Description.list (names.map Quoted.text) ++ ", .. \x7d"

/-- An engine, described. -/
def Engine.description (e : Engine) : String :=
  Description.record "SmartFormatter" [
    ("settings", e.settings.description),
    ("sources", SourceChain.description e.sources),
    ("formatters", e.formatters.description),
    ("on_error", Description.bool e.observer.isSome),
    ("cached_templates", e.cachedTemplates.repr)]

end TextTemplate
