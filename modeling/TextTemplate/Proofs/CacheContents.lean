import TextTemplate.Proofs.Cache
import TextTemplate.Proofs.Insertion

/-!
# What an engine keeps

What is kept never exceeds the capacity, although the capacity may be lowered at any time: insertion
makes room before, and settings that no longer fit drop everything. That what is kept is also right
is the invariant `Faithful`; here it is put together with the bounds.

A call of the parser goes in one of four ways, and only one of them changes what is kept.
-/

namespace TextTemplate.Engine

/-- Whether an engine keeps what it parses. -/
def Keeps (e : Engine) : Prop :=
  e.settings.cacheTemplates = true ∧ 0 < e.settings.cacheCapacity

/-! ## Calls of the parser -/

/-- The ways in which a call of the parser goes. -/
inductive Called (e : Engine) (source : String) :
    Except SyntaxError ParsedTemplate × Engine → Prop where
  | anew (h : ¬ e.Keeps) : Called e source (e.parseAnew source)
  | found (h : e.Keeps) {parsed : ParsedTemplate} (hget : e.cache.get? source = some parsed) :
      Called e source (.ok parsed, e)
  | kept (h : e.Keeps) (hget : e.cache.get? source = none) {t : Template}
      (hparse : Template.parse e.settings.escapeMode source = .ok t) :
      Called e source
        (.ok ⟨e.parses, t⟩, { e with parses := e.parses + 1 }.keep source ⟨e.parses, t⟩)
  | refused (h : e.Keeps) (hget : e.cache.get? source = none) {error : SyntaxError}
      (hparse : Template.parse e.settings.escapeMode source = .error error) :
      Called e source (.error error, e)

theorem called_parse (e : Engine) (source : String) : e.Called source (e.parse source) := by
  unfold parse
  by_cases hkeeps : e.Keeps
  · obtain ⟨htemplates, hcapacity⟩ := id hkeeps
    have htest : (!e.settings.cacheTemplates || decide (e.settings.cacheCapacity = 0)) = false := by
      rw [htemplates, decide_eq_false (Nat.ne_of_gt hcapacity)]
      rfl
    rw [htest, if_neg Bool.false_ne_true]
    cases hget : e.cache.get? source with
    | some parsed => exact .found hkeeps hget
    | none =>
      cases hparse : Template.parse e.settings.escapeMode source with
      | error error =>
        have hanew : e.parseAnew source = (.error error, e) := by rw [parseAnew, hparse]
        rw [hanew]
        exact .refused hkeeps hget hparse
      | ok t =>
        have hanew : e.parseAnew source =
            (.ok ⟨e.parses, t⟩, { e with parses := e.parses + 1 }) := by
          rw [parseAnew, hparse]
        rw [hanew]
        exact .kept hkeeps hget hparse
  · have htest : (!e.settings.cacheTemplates || decide (e.settings.cacheCapacity = 0)) = true := by
      rw [Bool.or_eq_true, Bool.not_eq_true', decide_eq_true_iff]
      rw [Keeps, not_and_or, Bool.not_eq_true, Nat.pos_iff_ne_zero, not_not] at hkeeps
      exact hkeeps
    rw [if_pos htest]
    exact .anew hkeeps

/-! ## Bounds -/

/-- What is kept stays within what the settings allow, and has one entry a text. -/
structure Bounded (e : Engine) : Prop where
  capacity : e.cachedTemplates ≤ e.settings.cacheCapacity
  off : e.settings.cacheTemplates = false → e.cachedTemplates = 0
  distinct : e.cache.keys.Nodup

theorem bounded_of_empty {e : Engine} (h : e.cache = .empty) : e.Bounded := by
  have hsize : e.cachedTemplates = 0 := by rw [cachedTemplates, h]; rfl
  have hkeys : e.cache.keys = [] := by rw [h]; rfl
  exact ⟨hsize ▸ Nat.zero_le _, fun _ ↦ hsize, hkeys ▸ List.nodup_nil⟩

/-- The bounds are about the cache and the two settings for it. -/
theorem Bounded.congr {e e' : Engine} (h : e.Bounded) (hcache : e'.cache = e.cache)
    (hcapacity : e'.settings.cacheCapacity = e.settings.cacheCapacity)
    (htemplates : e'.settings.cacheTemplates = e.settings.cacheTemplates) : e'.Bounded := by
  have hsize : e'.cachedTemplates = e.cachedTemplates := congrArg OrderedMap.size hcache
  refine ⟨?_, fun hoff ↦ ?_, hcache ▸ h.distinct⟩
  · rw [hsize, hcapacity]
    exact h.capacity
  · rw [hsize]
    exact h.off (htemplates ▸ hoff)

/-- Room is made before the insertion. -/
theorem Bounded.keep {e : Engine} (h : e.Bounded) (hkeeps : e.Keeps) (source : String)
    (parsed : ParsedTemplate) : (e.keep source parsed).Bounded := by
  obtain ⟨htemplates, hcapacity⟩ := hkeeps
  have hoff : e.settings.cacheTemplates = false → (e.keep source parsed).cachedTemplates = 0 :=
    fun hfalse ↦ absurd (htemplates.symm.trans hfalse) (Bool.false_ne_true ∘ Eq.symm)
  by_cases hfull : e.settings.cacheCapacity ≤ e.cache.size
  · have hcache : (e.keep source parsed).cache = OrderedMap.empty.insert source parsed := by
      rw [Engine.keep, if_pos hfull]
    refine ⟨?_, hoff, ?_⟩
    · rw [cachedTemplates, hcache]
      exact hcapacity
    · rw [hcache]
      have hempty : (OrderedMap.empty (κ := String) (α := ParsedTemplate)).keys.Nodup :=
        List.nodup_nil
      exact OrderedMap.nodup_keys_insert hempty source parsed
  · have hcache : (e.keep source parsed).cache = e.cache.insert source parsed := by
      rw [Engine.keep, if_neg hfull]
    refine ⟨?_, hoff, ?_⟩
    · rw [cachedTemplates, hcache]
      exact Nat.le_trans (e.cache.size_insert_le source parsed) (Nat.lt_of_not_le hfull)
    · rw [hcache]
      exact OrderedMap.nodup_keys_insert h.distinct source parsed

theorem Bounded.parse {e : Engine} (h : e.Bounded) (source : String) :
    (e.parse source).2.Bounded := by
  have hcalled := e.called_parse source
  generalize e.parse source = called at hcalled
  cases hcalled with
  | anew hkeeps =>
    unfold parseAnew
    split
    · exact h.congr rfl rfl rfl
    · exact h
  | found hkeeps hget => exact h
  | @kept hkeeps hget t hparse =>
    have hcounted : { e with parses := e.parses + 1 }.Bounded := h.congr rfl rfl rfl
    exact hcounted.keep hkeeps source _
  | refused hkeeps hget hparse => exact h

/-- What is still kept after a change of the settings fits the new ones. -/
theorem Bounded.setSettings {e : Engine} (h : e.Bounded) (settings : Settings) :
    (e.setSettings settings).Bounded := by
  unfold Engine.setSettings
  simp only
  split
  · exact bounded_of_empty rfl
  · rename_i hfit
    rw [Bool.or_eq_true, Bool.or_eq_true, not_or, not_or, Bool.not_eq_true', Bool.not_eq_false,
      decide_eq_true_iff, Nat.not_lt] at hfit
    obtain ⟨⟨_, htemplates⟩, hcapacity⟩ := hfit
    exact ⟨hcapacity, fun hoff ↦ absurd (htemplates.symm.trans hoff) (Bool.false_ne_true ∘ Eq.symm),
      h.distinct⟩

theorem Bounded.setEscapeMode {e : Engine} (h : e.Bounded) (mode : EscapeMode) :
    (e.setEscapeMode mode).Bounded := by
  obtain ⟨cache, hafter, hcache⟩ := e.setEscapeMode_eq mode
  rw [hafter]
  rcases hcache with rfl | ⟨rfl, _⟩
  · exact bounded_of_empty rfl
  · exact h.congr rfl rfl rfl

/-- Every operation keeps the bounds. -/
theorem Bounded.apply {e : Engine} (h : e.Bounded) (op : Operation) :
    (e.apply op).2.Bounded := by
  cases op with
  | parse source => exact h.parse source
  | format source args =>
    show (e.format source args).2.Bounded
    rw [format_after]
    exact h.parse source
  | formatTemplate template args => exact h
  | clearCache => exact bounded_of_empty rfl
  | setSettings settings => exact h.setSettings settings
  | setCaseSensitivity mode => exact h.congr rfl rfl rfl
  | setEscapeMode mode => exact h.setEscapeMode mode
  | setErrorAction action => exact h.congr rfl rfl rfl
  | addSource source => exact h.congr rfl rfl rfl
  | addFormatter name f => exact h.congr rfl rfl rfl
  | observe name => exact h.congr rfl rfl rfl

theorem Bounded.after {e : Engine} (h : e.Bounded) (ops : List Operation) :
    (e.after ops).Bounded := by
  induction ops generalizing e with
  | nil => exact h
  | cons op ops ih => exact ih (h.apply op)

/-! ## What a call leaves behind -/

theorem Faithful.parse_entry {e : Engine} (h : e.Faithful) (hbounded : e.Bounded)
    {entry : String × ParsedTemplate} (hentry : entry ∈ e.cache.entries) :
    Template.parse e.settings.escapeMode entry.1 = .ok entry.2.template :=
  h entry.1 entry.2 (OrderedMap.get?_of_mem_entries hbounded.distinct hentry)

/-- A text that is no template changes nothing of what is kept. -/
theorem cache_parse_of_error {e : Engine} {source : String} {error : SyntaxError}
    (herror : Template.parse e.settings.escapeMode source = .error error) :
    (e.parse source).2.cache = e.cache := by
  have hcalled := e.called_parse source
  generalize e.parse source = called at hcalled
  cases hcalled with
  | anew hkeeps => exact (e.parseAnew_after source).1
  | found hkeeps hget => rfl
  | kept hkeeps hget hparse => exact absurd (herror.symm.trans hparse) nofun
  | refused hkeeps hget hparse => rfl

theorem get?_parse_of_ok {e : Engine} (hkeeps : e.Keeps) {source : String} {parsed : ParsedTemplate}
    (hok : (e.parse source).1 = .ok parsed) :
    (e.parse source).2.cache.get? source = some parsed := by
  have hcalled := e.called_parse source
  generalize e.parse source = called at hcalled hok ⊢
  cases hcalled with
  | anew hunkept => exact absurd hkeeps hunkept
  | found _ hget =>
    rw [← Except.ok.inj hok]
    exact hget
  | kept _ hget hparse =>
    rw [← Except.ok.inj hok]
    exact OrderedMap.get?_insert_self _ _ _
  | refused _ hget hparse => exact absurd hok nofun

/-- **What is kept is bounded and right.** After any operations on a new engine, with any settings
and sources, no more is kept than the settings allow, and every text is kept with what the parser
gives for it now. A text that is no template leaves everything as it was; one that is, and that may
be kept, is kept with the answer to the call. -/
theorem cache_after (settings : Settings) (sources : SourceChain) (ops : List Operation)
    (source : String) :
    let e := (withSources settings sources).after ops
    (e.cachedTemplates ≤ e.settings.cacheCapacity ∧
      (e.settings.cacheTemplates = false → e.cachedTemplates = 0)) ∧
    (∀ entry ∈ e.cache.entries,
      Template.parse e.settings.escapeMode entry.1 = .ok entry.2.template) ∧
    (∀ error, Template.parse e.settings.escapeMode source = .error error →
      (e.parse source).2.cache = e.cache ∧ ∀ args, (e.format source args).2.cache = e.cache) ∧
    (∀ parsed, e.Keeps → (e.parse source).1 = .ok parsed →
      (e.parse source).2.cache.get? source = some parsed) := by
  intro e
  have hfaithful : e.Faithful := (faithful_of_empty rfl).after ops
  have hbounded : e.Bounded := (bounded_of_empty rfl).after ops
  refine ⟨⟨hbounded.capacity, hbounded.off⟩, fun _ ↦ hfaithful.parse_entry hbounded,
    fun error herror ↦ ?_, fun _ hkeeps ↦ get?_parse_of_ok hkeeps⟩
  have hcache := cache_parse_of_error herror
  exact ⟨hcache, fun args ↦ (congrArg Engine.cache (e.format_after source args)).trans hcache⟩

/-- With room for one template, the second text takes the place of the first. -/
theorem cache_after_smallSample :
    let e := (bare { cacheCapacity := 1 }).after [.parse "a", .format "\x7b0\x7d" []]
    (e.cachedTemplates = 1 ∧ e.cachedTemplates ≤ e.settings.cacheCapacity) ∧
      (e.parse "\x7b").2.cache = e.cache ∧
      (e.parse "b").2.cache.get? "b" = some ⟨2, [.literal ⟨"b", ⟨0, 1⟩⟩]⟩ := by
  intro e
  have hsize : e.cachedTemplates = 1 := rfl
  have herror : ∃ error, Template.parse e.settings.escapeMode "\x7b" = .error error := ⟨_, rfl⟩
  have hkeeps : e.Keeps := ⟨rfl, Nat.one_pos⟩
  have hok : (e.parse "b").1 = .ok ⟨2, [.literal ⟨"b", ⟨0, 1⟩⟩]⟩ := rfl
  obtain ⟨error, herror⟩ := herror
  obtain ⟨⟨hcapacity, _⟩, _, hunchanged, _⟩ :=
    cache_after { cacheCapacity := 1 } [] [.parse "a", .format "\x7b0\x7d" []] "\x7b"
  obtain ⟨_, _, _, hkept⟩ :=
    cache_after { cacheCapacity := 1 } [] [.parse "a", .format "\x7b0\x7d" []] "b"
  exact ⟨⟨hsize, hcapacity⟩, (hunchanged error herror).1, hkept _ hkeeps hok⟩

end TextTemplate.Engine
