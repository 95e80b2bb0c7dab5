import TextTemplate.Engine
import TextTemplate.Proofs.Relating

/-!
# Kept templates are never noticed

An engine keeps the templates that it parsed, and what it keeps depends on the escape mode that was
in force at the time. The invariant is that whatever is kept is what the parser would give *now*.
Three operations could break it: keeping a template, and the two that may change the escape mode.
All others leave both the cache and the mode alone, or drop the cache.

A reply does not say which run of the parser a template came out of, since that is the one thing in
which an engine that keeps templates differs from one that does not.
-/

namespace TextTemplate

/-- The same settings, except that nothing is kept. -/
def Settings.switchedOff (s : Settings) : Settings := { s with cacheTemplates := false }

/-! ## Operations -/

/-- What a caller may do with an engine. -/
inductive Operation where
  | parse (source : String)
  | format (source : String) (args : List Value)
  | formatTemplate (template : Template) (args : List Value)
  | clearCache
  | setSettings (settings : Settings)
  | setCaseSensitivity (mode : CaseSensitivity)
  | setEscapeMode (mode : EscapeMode)
  | setErrorAction (action : ErrorAction)
  | addSource (source : ValueSource)
  | addFormatter (name : String) (f : Formatter)
  | observe (name : String)

/-- What a caller is given back. -/
inductive Reply where
  | parsed (result : Except SyntaxError Template)
  | formatted (answer : Answer FormatError)
  | rendered (answer : Answer ResolutionError)
  | configured

namespace Engine

/-- One operation: the reply, and the engine after it. -/
def apply (e : Engine) : Operation → Reply × Engine
  | .parse source =>
    let (result, e') := e.parse source
    (.parsed (result.map ParsedTemplate.template), e')
  | .format source args =>
    let (answer, e') := e.format source args
    (.formatted answer, e')
  | .formatTemplate template args => (.rendered (e.formatTemplate template args), e)
  | .clearCache => (.configured, e.clearCache)
  | .setSettings settings => (.configured, e.setSettings settings)
  | .setCaseSensitivity mode => (.configured, e.setCaseSensitivity mode)
  | .setEscapeMode mode => (.configured, e.setEscapeMode mode)
  | .setErrorAction action => (.configured, e.setErrorAction action)
  | .addSource source => (.configured, e.addSource source)
  | .addFormatter name f => (.configured, e.addFormatter name f)
  | .observe name => (.configured, e.observe name)

/-- The engine after operations, one after another. -/
def after (e : Engine) (ops : List Operation) : Engine :=
  ops.foldl (fun e op ↦ (e.apply op).2) e

/-- A new engine of the same configuration that keeps nothing. -/
def uncached (e : Engine) : Engine :=
  { withSources e.settings.switchedOff e.sources with
    formatters := e.formatters
    observer := e.observer }

/-! ## The invariant -/

/-- Whatever is kept is what the parser gives under the current settings. -/
def Faithful (e : Engine) : Prop :=
  ∀ source parsed, e.cache.get? source = some parsed →
    Template.parse e.settings.escapeMode source = .ok parsed.template

theorem faithful_of_empty {e : Engine} (h : e.cache = .empty) : e.Faithful := by
  intro source parsed hget
  rw [h, OrderedMap.get?_empty] at hget
  exact absurd hget nofun

/-- The invariant is about the cache and the escape mode alone. -/
theorem Faithful.congr {e e' : Engine} (h : e.Faithful) (hcache : e'.cache = e.cache)
    (hmode : e'.settings.escapeMode = e.settings.escapeMode) : e'.Faithful := by
  intro source parsed hget
  rw [hcache] at hget
  rw [hmode]
  exact h source parsed hget

theorem Faithful.keep {e : Engine} (h : e.Faithful) {source : String} {parsed : ParsedTemplate}
    (hparsed : Template.parse e.settings.escapeMode source = .ok parsed.template) :
    (e.keep source parsed).Faithful := by
  intro source' parsed' hget
  rw [Engine.keep] at hget
  by_cases hsource : source' = source
  · subst hsource
    rw [OrderedMap.get?_insert_self] at hget
    rw [← Option.some.inj hget]
    exact hparsed
  · rw [OrderedMap.get?_insert_of_ne _ _ hsource] at hget
    split at hget
    · rw [OrderedMap.get?_empty] at hget
      exact absurd hget nofun
    · exact h source' parsed' hget

/-! ## Engines that keep different templates -/

/-- Engines that agree on everything but what they keep and whether they keep anything. -/
structure Alike (e e' : Engine) : Prop where
  settings : e'.settings.switchedOff = e.settings.switchedOff
  sources : e'.sources = e.sources
  formatters : e'.formatters = e.formatters
  observer : e'.observer = e.observer

theorem alike_uncached (e : Engine) : e.Alike e.uncached := ⟨rfl, rfl, rfl, rfl⟩

theorem Alike.symm {e e' : Engine} (h : e.Alike e') : e'.Alike e :=
  ⟨h.settings.symm, h.sources.symm, h.formatters.symm, h.observer.symm⟩

theorem Alike.trans {e e' e'' : Engine} (h : e.Alike e') (h' : e'.Alike e'') : e.Alike e'' :=
  ⟨h'.settings.trans h.settings, h'.sources.trans h.sources, h'.formatters.trans h.formatters,
    h'.observer.trans h.observer⟩

theorem Alike.escapeMode {e e' : Engine} (h : e.Alike e') :
    e'.settings.escapeMode = e.settings.escapeMode := by
  have hmode := congrArg Settings.escapeMode h.settings
  exact hmode

theorem Alike.renderer {e e' : Engine} (h : e.Alike e') : e.renderer.Alike e'.renderer := by
  have hcase := congrArg Settings.caseSensitivity h.settings
  have haction := congrArg Settings.errorAction h.settings
  have htoken := congrArg Settings.fallbackToken h.settings
  exact ⟨⟨h.sources, h.formatters, rfl, hcase⟩, haction, htoken⟩

theorem Alike.formatTemplate {e e' : Engine} (h : e.Alike e') (t : Template) (args : List Value) :
    e'.formatTemplate t args = e.formatTemplate t args := by
  rw [Engine.formatTemplate, Engine.formatTemplate, h.renderer.render, h.observer]

/-! ## Calls -/

theorem parseAnew_result (e : Engine) (source : String) :
    (e.parseAnew source).1.map ParsedTemplate.template =
      Template.parse e.settings.escapeMode source := by
  unfold parseAnew
  cases Template.parse e.settings.escapeMode source <;> rfl

theorem parseAnew_after (e : Engine) (source : String) :
    (e.parseAnew source).2.cache = e.cache ∧ e.Alike (e.parseAnew source).2 := by
  unfold parseAnew
  split <;> exact ⟨rfl, ⟨rfl, rfl, rfl, rfl⟩⟩

/-- A call of the parser answers what the parser would, and keeps the invariant. -/
structure ParsesFaithfully (e : Engine) (source : String)
    (called : Except SyntaxError ParsedTemplate × Engine) : Prop where
  result : called.1.map ParsedTemplate.template = Template.parse e.settings.escapeMode source
  alike : e.Alike called.2
  faithful : called.2.Faithful

theorem parsesFaithfully_parseAnew {e : Engine} (h : e.Faithful) (source : String) :
    e.ParsesFaithfully source (e.parseAnew source) := by
  obtain ⟨hcache, halike⟩ := e.parseAnew_after source
  exact ⟨e.parseAnew_result source, halike, h.congr hcache halike.escapeMode⟩

theorem parsesFaithfully_parse {e : Engine} (h : e.Faithful) (source : String) :
    e.ParsesFaithfully source (e.parse source) := by
  have hnew := parsesFaithfully_parseAnew h source
  unfold parse
  split
  · exact hnew
  · split
    · rename_i parsed hget
      exact ⟨(h source parsed hget).symm, ⟨rfl, rfl, rfl, rfl⟩, h⟩
    · obtain ⟨hresult, halike, hfaithful⟩ := hnew
      generalize e.parseAnew source = called at hresult halike hfaithful ⊢
      obtain ⟨result, e'⟩ := called
      cases result with
      | error error => exact ⟨hresult, halike, hfaithful⟩
      | ok parsed =>
        refine ⟨hresult, halike.trans ⟨rfl, rfl, rfl, rfl⟩, hfaithful.keep ?_⟩
        rw [halike.escapeMode]
        exact hresult.symm

theorem format_eq {e : Engine} (h : e.Faithful) (source : String) (args : List Value) :
    (e.format source args).1 = match Template.parse e.settings.escapeMode source with
      | .error error => ⟨.error (.malformed error), []⟩
      | .ok t => ⟨(e.formatTemplate t args).result.mapError .unresolved,
          (e.formatTemplate t args).observed⟩ := by
  obtain ⟨hresult, halike, _⟩ := parsesFaithfully_parse h source
  unfold Engine.format
  generalize e.parse source = called at hresult halike ⊢
  obtain ⟨result, e'⟩ := called
  rw [← hresult]
  cases result with
  | error error => rfl
  | ok parsed =>
    simp only [Except.map]
    rw [← halike.formatTemplate]

theorem format_after (e : Engine) (source : String) (args : List Value) :
    (e.format source args).2 = (e.parse source).2 := by
  unfold Engine.format
  split <;> rename_i hparse <;> rw [hparse]

/-! ## Setters -/

theorem setSettings_eq (e : Engine) (settings : Settings) :
    ∃ cache, e.setSettings settings = { e with settings, cache } ∧
      (cache = .empty ∨ cache = e.cache ∧ settings.escapeMode = e.settings.escapeMode) := by
  unfold setSettings
  simp only
  split
  · exact ⟨.empty, rfl, Or.inl rfl⟩
  · rename_i hfit
    -- Under another mode the first of the three reasons would have emptied the cache.
    refine ⟨e.cache, rfl, Or.inr ⟨rfl, Decidable.byContradiction fun hmode ↦ hfit ?_⟩⟩
    rw [bne_iff_ne.mpr hmode, Bool.true_or, Bool.true_or]

theorem setEscapeMode_eq (e : Engine) (mode : EscapeMode) :
    ∃ cache, e.setEscapeMode mode =
        { e with settings := { e.settings with escapeMode := mode }, cache } ∧
      (cache = .empty ∨ cache = e.cache ∧ mode = e.settings.escapeMode) := by
  unfold setEscapeMode
  by_cases hmode : e.settings.escapeMode = mode
  · rw [if_pos hmode]
    exact ⟨e.cache, rfl, Or.inr ⟨rfl, hmode.symm⟩⟩
  · rw [if_neg hmode]
    exact ⟨.empty, rfl, Or.inl rfl⟩

theorem Faithful.setSettings {e : Engine} (h : e.Faithful) (settings : Settings) :
    (e.setSettings settings).Faithful := by
  obtain ⟨cache, hafter, hcache⟩ := e.setSettings_eq settings
  rw [hafter]
  rcases hcache with rfl | ⟨rfl, hmode⟩
  · exact faithful_of_empty rfl
  · exact h.congr rfl hmode

theorem Faithful.setEscapeMode {e : Engine} (h : e.Faithful) (mode : EscapeMode) :
    (e.setEscapeMode mode).Faithful := by
  obtain ⟨cache, hafter, hcache⟩ := e.setEscapeMode_eq mode
  rw [hafter]
  rcases hcache with rfl | ⟨rfl, hmode⟩
  · exact faithful_of_empty rfl
  · exact h.congr rfl hmode

/-! ## Steps and runs -/

/-- Every operation keeps the invariant. -/
theorem Faithful.apply {e : Engine} (h : e.Faithful) (op : Operation) :
    (e.apply op).2.Faithful := by
  cases op with
  | parse source => exact (parsesFaithfully_parse h source).faithful
  | format source args =>
    show (e.format source args).2.Faithful
    rw [format_after]
    exact (parsesFaithfully_parse h source).faithful
  | formatTemplate template args => exact h
  | clearCache => exact faithful_of_empty rfl
  | setSettings settings => exact h.setSettings settings
  | setCaseSensitivity mode => exact h.congr rfl rfl
  | setEscapeMode mode => exact h.setEscapeMode mode
  | setErrorAction action => exact h.congr rfl rfl
  | addSource source => exact h.congr rfl rfl
  | addFormatter name f => exact h.congr rfl rfl
  | observe name => exact h.congr rfl rfl

theorem Faithful.after {e : Engine} (h : e.Faithful) (ops : List Operation) :
    (e.after ops).Faithful := by
  induction ops generalizing e with
  | nil => exact h
  | cons op ops ih => exact ih (h.apply op)

/-- Under the invariant, engines that agree on everything but what they keep reply alike. -/
theorem Alike.reply {e e' : Engine} (halike : e.Alike e') (h : e.Faithful) (h' : e'.Faithful)
    (op : Operation) : (e'.apply op).1 = (e.apply op).1 := by
  cases op with
  | parse source =>
    have hresult := (parsesFaithfully_parse h source).result
    have hresult' := (parsesFaithfully_parse h' source).result
    rw [halike.escapeMode] at hresult'
    exact congrArg Reply.parsed (hresult'.trans hresult.symm)
  | format source args =>
    have hformat : (e'.format source args).1 = (e.format source args).1 := by
      rw [format_eq h, format_eq h', halike.escapeMode]
      cases Template.parse e.settings.escapeMode source with
      | error error => rfl
      | ok t => simp only [halike.formatTemplate]
    exact congrArg Reply.formatted hformat
  | formatTemplate template args =>
    exact congrArg Reply.rendered (halike.formatTemplate template args)
  | _ => rfl

/-- **The cache is invisible.** After any operations on a new engine, with any settings and sources,
the next operation gives the reply of an engine of the same configuration that keeps nothing. -/
theorem apply_eq_uncached (settings : Settings) (sources : SourceChain) (ops : List Operation)
    (op : Operation) :
    (((withSources settings sources).after ops).apply op).1 =
      (((withSources settings sources).after ops).uncached.apply op).1 := by
  have hempty : (withSources settings sources).Faithful := faithful_of_empty rfl
  have hcached := hempty.after ops
  have huncached : ((withSources settings sources).after ops).uncached.Faithful :=
    faithful_of_empty rfl
  exact ((alike_uncached _).reply hcached huncached op).symm

/-! ## Two runs side by side -/

/-- The replies to operations, one after another. -/
def replies (e : Engine) : List Operation → List Reply
  | [] => []
  | op :: ops => (e.apply op).1 :: (e.apply op).2.replies ops

end Engine

/-- The same operation, with settings that keep nothing. -/
def Operation.switchedOff : Operation → Operation
  | .setSettings settings => .setSettings settings.switchedOff
  | op => op

namespace Engine

/-- Engines that agree on everything but what they keep go on to do so. -/
theorem Alike.apply {e e' : Engine} (halike : e.Alike e') (h : e.Faithful) (h' : e'.Faithful)
    (op : Operation) : (e.apply op).2.Alike (e'.apply op.switchedOff).2 := by
  have hparse : ∀ source, (e.parse source).2.Alike (e'.parse source).2 := fun source ↦
    (parsesFaithfully_parse h source).alike.symm.trans
      (halike.trans (parsesFaithfully_parse h' source).alike)
  cases op with
  | parse source => exact hparse source
  | format source args =>
    show (e.format source args).2.Alike (e'.format source args).2
    rw [format_after, format_after]
    exact hparse source
  | formatTemplate template args => exact halike
  | clearCache => exact ⟨halike.settings, halike.sources, halike.formatters, halike.observer⟩
  | setSettings settings =>
    obtain ⟨_, hafter, _⟩ := e.setSettings_eq settings
    obtain ⟨_, hafter', _⟩ := e'.setSettings_eq settings.switchedOff
    show (e.setSettings settings).Alike (e'.setSettings settings.switchedOff)
    rw [hafter, hafter']
    exact ⟨rfl, halike.sources, halike.formatters, halike.observer⟩
  | setCaseSensitivity mode =>
    refine ⟨?_, halike.sources, halike.formatters, halike.observer⟩
    exact congrArg (fun s : Settings ↦ { s with caseSensitivity := mode }) halike.settings
  | setEscapeMode mode =>
    obtain ⟨_, hafter, _⟩ := e.setEscapeMode_eq mode
    obtain ⟨_, hafter', _⟩ := e'.setEscapeMode_eq mode
    show (e.setEscapeMode mode).Alike (e'.setEscapeMode mode)
    rw [hafter, hafter']
    refine ⟨?_, halike.sources, halike.formatters, halike.observer⟩
    exact congrArg (fun s : Settings ↦ { s with escapeMode := mode }) halike.settings
  | setErrorAction action =>
    refine ⟨?_, halike.sources, halike.formatters, halike.observer⟩
    exact congrArg (fun s : Settings ↦ { s with errorAction := action }) halike.settings
  | addSource source =>
    refine ⟨halike.settings, ?_, halike.formatters, halike.observer⟩
    exact congrArg (· ++ [source]) halike.sources
  | addFormatter name f =>
    refine ⟨halike.settings, halike.sources, ?_, halike.observer⟩
    exact congrArg (·.add name f) halike.formatters
  | observe name => exact ⟨halike.settings, halike.sources, halike.formatters, rfl⟩

theorem reply_switchedOff (e : Engine) (op : Operation) :
    (e.apply op.switchedOff).1 = (e.apply op).1 := by
  cases op <;> rfl

theorem Alike.replies {e e' : Engine} (halike : e.Alike e') (h : e.Faithful) (h' : e'.Faithful)
    (ops : List Operation) : e'.replies (ops.map Operation.switchedOff) = e.replies ops := by
  induction ops generalizing e e' with
  | nil => rfl
  | cons op ops ih =>
    rw [List.map_cons, Engine.replies, Engine.replies, reply_switchedOff, halike.reply h h',
      ih (halike.apply h h' op) (h.apply op) (h'.apply op.switchedOff)]

/-- An engine that is never told to keep anything gives the replies of one that is. -/
theorem replies_switchedOff (settings : Settings) (sources : SourceChain) (ops : List Operation) :
    (withSources settings.switchedOff sources).replies (ops.map Operation.switchedOff) =
      (withSources settings sources).replies ops := by
  have halike : (withSources settings sources).Alike (withSources settings.switchedOff sources) :=
    ⟨rfl, rfl, rfl, rfl⟩
  exact halike.replies (faithful_of_empty rfl) (faithful_of_empty rfl) ops

end Engine

end TextTemplate
