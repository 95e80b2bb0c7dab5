import TextTemplate.Rendering
import TextTemplate.Template.Parser

/-!
# Engines

An engine holds settings, sources and formatters for many calls, keeps the templates that it parsed,
and tells an observer which errors it recovered from. A call gives an answer and the engine after it,
and that engine differs from the one before in what is kept only.
-/

namespace TextTemplate

/-- A template as it came out of one run of the parser. Two with one serial number are one. -/
structure ParsedTemplate where
  serial : Nat
  template : Template

/-- Why a text and arguments give no result. -/
inductive FormatError where
  | malformed (e : SyntaxError)
  | unresolved (e : ResolutionError)

/-- The result of a call, and what the observer was told during it. -/
structure Answer (ε : Type) where
  result : Except ε String
  observed : List (String × ResolutionError)

/-- A configured formatter of templates. -/
structure Engine where
  settings : Settings
  sources : SourceChain
  formatters : FormatterRegistry
  /-- The name under which the observer is told of errors, if there is an observer. -/
  observer : Option String
  cache : OrderedMap String ParsedTemplate
  /-- The number of templates parsed so far. -/
  parses : Nat

namespace Engine

/-- An engine with the given sources. -/
def withSources (settings : Settings) (sources : SourceChain) : Engine :=
  { settings, sources, formatters := {}, observer := none, cache := .empty, parses := 0 }

/-- An engine with the built-in sources. -/
def new (settings : Settings) : Engine := withSources settings SourceChain.builtin

/-- An engine without sources. -/
def bare (settings : Settings) : Engine := withSources settings []

/-! ## Configuration -/

/-- Drops the templates that are kept. -/
def clearCache (e : Engine) : Engine := { e with cache := .empty }

/-- The number of templates that are kept. -/
def cachedTemplates (e : Engine) : Nat := e.cache.size

/-- Replaces the settings. What is kept is dropped if it was parsed under another escape mode, if
nothing is to be kept any more, or if it is too much. -/
def setSettings (e : Engine) (settings : Settings) : Engine :=
  let unfit := settings.escapeMode != e.settings.escapeMode || !settings.cacheTemplates ||
    settings.cacheCapacity < e.cachedTemplates
  { (if unfit then e.clearCache else e) with settings }

/-- Sets how names are compared. -/
def setCaseSensitivity (e : Engine) (mode : CaseSensitivity) : Engine :=
  { e with settings := { e.settings with caseSensitivity := mode } }

/-- Sets how braces are escaped; templates parsed under another mode are dropped. -/
def setEscapeMode (e : Engine) (mode : EscapeMode) : Engine :=
  { (if e.settings.escapeMode = mode then e else e.clearCache) with
    settings := { e.settings with escapeMode := mode } }

/-- Sets what happens to placeholders that fail. -/
def setErrorAction (e : Engine) (action : ErrorAction) : Engine :=
  { e with settings := { e.settings with errorAction := action } }

/-- Adds a source behind the others. -/
def addSource (e : Engine) (source : ValueSource) : Engine :=
  { e with sources := e.sources ++ [source] }

/-- Registers a formatter; the empty name stands for the default one. -/
def addFormatter (e : Engine) (name : String) (f : Formatter) : Engine :=
  { e with formatters := e.formatters.add name f }

/-- Has an observer told of errors under a name, and no other. -/
def observe (e : Engine) (name : String) : Engine := { e with observer := some name }

/-! ## Calls -/

/-- Runs the parser. -/
def parseAnew (e : Engine) (source : String) : Except SyntaxError ParsedTemplate × Engine :=
  match Template.parse e.settings.escapeMode source with
  | .ok template => (.ok ⟨e.parses, template⟩, { e with parses := e.parses + 1 })
  | .error error => (.error error, e)

/-- Keeps a template. If as many are kept as may be, all of them are dropped before. -/
def keep (e : Engine) (source : String) (parsed : ParsedTemplate) : Engine :=
  let cache := if e.settings.cacheCapacity ≤ e.cache.size then .empty else e.cache
  { e with cache := cache.insert source parsed }

/-- The template that a text is, from what is kept if it is there. -/
def parse (e : Engine) (source : String) : Except SyntaxError ParsedTemplate × Engine :=
  if !e.settings.cacheTemplates || e.settings.cacheCapacity = 0 then e.parseAnew source
  else match e.cache.get? source with
    | some parsed => (.ok parsed, e)
    | none =>
      match e.parseAnew source with
      | (.ok parsed, e) => (.ok parsed, e.keep source parsed)
      | (.error error, e) => (.error error, e)

/-- The renderer of an engine. -/
def renderer (e : Engine) : Renderer :=
  { settings := e.settings, sources := e.sources, formatters := e.formatters }

/-- Renders a parsed template. -/
def formatTemplate (e : Engine) (template : Template) (args : List Value) :
    Answer ResolutionError :=
  let outcome := e.renderer.render template args
  { result := outcome.result
    observed := match e.observer with
      | some name => outcome.recovered.map fun error ↦ (name, error)
      | none => [] }

/-- Parses a text and renders it. -/
def format (e : Engine) (source : String) (args : List Value) : Answer FormatError × Engine :=
  match e.parse source with
  | (.error error, e) => (⟨.error (.malformed error), []⟩, e)
  | (.ok parsed, e) =>
    let answer := e.formatTemplate parsed.template args
    (⟨answer.result.mapError .unresolved, answer.observed⟩, e)

end Engine

/-- Renders a text against arguments, with the built-in sources and nothing kept. -/
def format (source : String) (args : List Value) (settings : Settings) :
    Except FormatError String :=
  ((Engine.new { settings with cacheTemplates := false }).format source args).1.result

end TextTemplate
