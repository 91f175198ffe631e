import Mathlib.Data.List.Induction
import PluralTemplate.Proofs.Handler.Transparency

/-!
# Where cached variants come from

A cache knows a template by its digest only, so a template can be answered with the variants of
another one. This module says of which: every entry holds what some template spells that was
looked up before under the same digest, namely by the call that missed the key and put the entry
which has stayed since (`HeldFrom`). A call is answered as it would be without a cache for that
template, or for its own if it misses.

One call brings in at most the entry of the template it looks up, and only on a miss
(`Effect.entry_cases`). The rest is an induction over the history from its end. Besides requests,
a history has lookups of bare keys in the cache, which bring nothing in but are counted.
-/

set_option autoImplicit false

namespace PluralTemplate.Handler

/-! ## Histories -/

/-- Look a key up in the cache of a handler. -/
def lookUp (h : Handler) (key : TemplateKey) : Option VariantSet × Handler :=
  let (found, cache) := h.cache.get key
  (found, { h with cache })

/-- What can be asked of a handler and of its cache. -/
inductive Call where
  | ask (request : Request)
  | lookUp (key : TemplateKey)

inductive Reply where
  | answer (answer : Answer)
  | found (set : Option VariantSet)

def perform (h : Handler) : Call → Reply × Handler
  | .ask request =>
    let (answer, h) := h.step request
    (.answer answer, h)
  | .lookUp key =>
    let (found, h) := h.lookUp key
    (.found found, h)

/-- The handler after a list of calls. -/
def after (h : Handler) (calls : List Call) : Handler :=
  calls.foldl (fun h call => (h.perform call).2) h

/-- The template whose variants a call asks for. -/
def Call.template? (trigger : String) : Call → Option String
  | .ask request => request.lookedUp? trigger
  | .lookUp _ => none

/-- Whether a call looks into the cache. -/
def Call.looks (trigger : String) : Call → Bool
  | .ask request => (request.lookedUp? trigger).isSome
  | .lookUp _ => true

theorem after_append (h : Handler) (history : List Call) (call : Call) :
    h.after (history ++ [call]) = ((h.after history).perform call).2 := by
  simp [after, List.foldl_append]

theorem Call.looks_of_template? {trigger source : String} {call : Call}
    (looked : call.template? trigger = some source) : call.looks trigger = true := by
  cases call with
  | lookUp _ => rfl
  | ask request =>
    change request.lookedUp? trigger = some source at looked
    rw [looks, looked]
    rfl

/-! ## One call -/

/-- What a call can do to the cache of a handler. -/
inductive Effect (h : Handler) (call : Call) : Cache VariantSet → Prop
  | idle (silent : call.looks h.trigger = false) : Effect h call h.cache
  | cleared (silent : call.looks h.trigger = false) : Effect h call h.cache.clear
  | counted (found : Bool) (looking : call.looks h.trigger = true) :
    Effect h call (h.cache.countLookup found)
  | entered {source : String} (looked : call.template? h.trigger = some source)
    (missed : h.cache.entries[TemplateKey.ofTemplate source]? = none) :
    Effect h call ((h.cache.countLookup false).put (.ofTemplate source) (h.parse source))

/-- A call changes nothing of a handler but its cache. -/
theorem effect_perform (h : Handler) (call : Call) :
    ∃ cache, Effect h call cache ∧ (h.perform call).2 = { h with cache } := by
  cases call with
  | lookUp key => exact ⟨_, .counted _ rfl, rfl⟩
  | ask request =>
    change ∃ cache, Effect h (.ask request) cache ∧ (h.step request).2 = { h with cache }
    cases looked : request.lookedUp? h.trigger with
    | none =>
      have silent : (Call.ask request).looks h.trigger = false := by
        rw [Call.looks, looked]
        rfl
      obtain ⟨-, unchanged | cleared⟩ := step_of_lookedUp_none looked
      · exact ⟨h.cache, .idle silent, unchanged⟩
      · exact ⟨h.cache.clear, .cleared silent, cleared⟩
    | some template =>
      obtain ⟨view, stepped, -⟩ := step_eq_view looked
      rw [stepped]
      cases held : h.cache.entries[TemplateKey.ofTemplate template]? with
      | some set =>
        rw [variants_hit held]
        exact ⟨_, .counted true (Call.looks_of_template? looked), rfl⟩
      | none =>
        rw [variants_miss held]
        exact ⟨_, .entered looked held, rfl⟩

namespace Effect

variable {h : Handler} {call : Call} {cache : Cache VariantSet}

theorem limit_eq (effect : Effect h call cache) : cache.limit = h.cache.limit := by
  cases effect with
  | idle _ => rfl
  | cleared _ => rfl
  | counted found _ => exact Cache.limit_countLookup h.cache found
  | entered _ _ => rw [Cache.limit_put, Cache.limit_countLookup]

/-- An entry after a call was there before, or the call missed its key, looked up a template
with that key, and put what the template spells. -/
theorem entry_cases (effect : Effect h call cache) {key : TemplateKey} {set : VariantSet}
    (held : cache.entries[key]? = some set) :
    h.cache.entries[key]? = some set ∨
      h.cache.entries[key]? = none ∧ ∃ source, call.template? h.trigger = some source ∧
        TemplateKey.ofTemplate source = key ∧ set = h.parse source := by
  cases effect with
  | idle _ => exact .inl held
  | counted _ _ => exact .inl held
  | cleared _ =>
    rw [Cache.clear, Std.HashMap.getElem?_empty] at held
    cases held
  | entered looked missed =>
    rcases Cache.lookup_of_put held with ⟨rfl, rfl⟩ | there
    · exact .inr ⟨missed, _, looked, rfl, rfl⟩
    · exact .inl there

/-- A call that looks into the cache is counted once, as found or as not found. -/
theorem lookups_eq (effect : Effect h call cache) :
    cache.lookups = h.cache.lookups + if call.looks h.trigger then 1 else 0 := by
  cases effect with
  | idle silent => simp [silent]
  | cleared silent => simp [silent, Cache.clear, Cache.lookups]
  | counted found looking => rw [Cache.lookups_countLookup, looking, if_pos rfl]
  | entered looked _ =>
    rw [Cache.lookups_put, Cache.lookups_countLookup, Call.looks_of_template? looked, if_pos rfl]

end Effect

theorem SameSettings.trans {a b c : Handler} (first : SameSettings a b)
    (second : SameSettings b c) : SameSettings a c :=
  ⟨first.trigger_eq.trans second.trigger_eq, first.delimiter_eq.trans second.delimiter_eq,
    first.registry_eq.trans second.registry_eq, first.limit_eq.trans second.limit_eq⟩

theorem SameSettings.parse_eq {a b : Handler} (same : SameSettings a b) : a.parse = b.parse := by
  funext template
  rw [parse, parse, same.delimiter_eq]

theorem sameSettings_perform (h : Handler) (call : Call) : SameSettings (h.perform call).2 h := by
  obtain ⟨cache, effect, after⟩ := effect_perform h call
  rw [after]
  exact ⟨rfl, rfl, rfl, effect.limit_eq⟩

theorem lookups_perform (h : Handler) (call : Call) :
    (h.perform call).2.cache.lookups =
      h.cache.lookups + if call.looks h.trigger then 1 else 0 := by
  obtain ⟨cache, effect, after⟩ := effect_perform h call
  rw [after]
  exact effect.lookups_eq

/-! ## Whole histories -/

theorem sameSettings_after (h : Handler) (history : List Call) :
    SameSettings (h.after history) h := by
  induction history using List.reverseRecOn with
  | nil => exact ⟨rfl, rfl, rfl, rfl⟩
  | append_singleton history call ih =>
    rw [after_append]
    exact (sameSettings_perform _ call).trans ih

/-- A call looked a template up that the cache did not hold, and the entry it put under the key
of the template has been held through all later calls. -/
structure Entered (start : Handler) (before : List Call) (call : Call) (later : List Call)
    (key : TemplateKey) (source : String) : Prop where
  looked : call.template? start.trigger = some source
  digest : TemplateKey.ofTemplate source = key
  missed : (start.after before).cache.entries[key]? = none
  kept : ∀ between, between <+: later →
    (start.after (before ++ call :: between)).cache.entries[key]? = some (start.parse source)

/-- The entry held under a key after a history was put there for a template. -/
def HeldFrom (start : Handler) (history : List Call) (key : TemplateKey) (source : String) : Prop :=
  ∃ before call later,
    history = before ++ call :: later ∧ Entered start before call later key source

section Held

variable {start : Handler} {history : List Call} {call : Call} {key : TemplateKey} {source : String}

theorem HeldFrom.digest_eq (held : HeldFrom start history key source) :
    TemplateKey.ofTemplate source = key := by
  obtain ⟨before, call, later, -, entered⟩ := held
  exact entered.digest

/-- The template of an entry was asked for before. -/
theorem HeldFrom.exists_call (held : HeldFrom start history key source) :
    ∃ call ∈ history, call.template? start.trigger = some source := by
  obtain ⟨before, call, later, rfl, entered⟩ := held
  exact ⟨call, by simp, entered.looked⟩

/-- The entry that a call puts has been held since. -/
theorem HeldFrom.new (looked : call.template? start.trigger = some source)
    (digest : TemplateKey.ofTemplate source = key)
    (missed : (start.after history).cache.entries[key]? = none)
    (put : (start.after (history ++ [call])).cache.entries[key]? = some (start.parse source)) :
    HeldFrom start (history ++ [call]) key source := by
  refine ⟨history, call, [], rfl, looked, digest, missed, fun between within => ?_⟩
  rw [List.prefix_nil.1 within]
  exact put

/-- An entry goes on being held as long as no call takes it out. -/
theorem HeldFrom.extend (held : HeldFrom start history key source)
    (stays : (start.after (history ++ [call])).cache.entries[key]? = some (start.parse source)) :
    HeldFrom start (history ++ [call]) key source := by
  obtain ⟨before, first, later, rfl, entered⟩ := held
  refine ⟨before, first, later ++ [call], by simp, entered.looked, entered.digest, entered.missed,
    fun between within => ?_⟩
  rcases List.prefix_concat_iff.1 within with whole | earlier
  · subst whole
    simpa using stays
  · exact entered.kept between earlier

/-- Every entry was put there for a template, whose variants it holds. -/
theorem exists_heldFrom (unused : start.cache.entries = ∅) (history : List Call)
    {set : VariantSet} (held : (start.after history).cache.entries[key]? = some set) :
    ∃ source, HeldFrom start history key source ∧ set = start.parse source := by
  -- By the last call: an entry that was there before has its origin from the induction, and stays.
  induction history using List.reverseRecOn generalizing key set with
  | nil =>
    rw [after, List.foldl_nil, unused, Std.HashMap.getElem?_empty] at held
    cases held
  | append_singleton history call ih =>
    obtain ⟨cache, effect, next⟩ := effect_perform (start.after history) call
    have last : cache.entries[key]? = some set := by
      rw [after_append, next] at held
      exact held
    have same := sameSettings_after start history
    rcases effect.entry_cases last with there | ⟨missed, source, looked, digest, rfl⟩
    · obtain ⟨source, earlier, rfl⟩ := ih there
      exact ⟨source, earlier.extend held, rfl⟩
    · rw [same.trigger_eq] at looked
      rw [same.parse_eq] at held ⊢
      exact ⟨source, .new looked digest missed held, rfl⟩

/-- A request is answered for the template of the entry it finds, or for its own. -/
theorem exists_served (unused : start.cache.entries = ∅) (history : List Call)
    {request : Request} {template : String}
    (looked : request.lookedUp? start.trigger = some template) :
    ∃ source, TemplateKey.ofTemplate source = TemplateKey.ofTemplate template ∧
      ((start.after history).step request).1 = start.answerAnew (request.on source) ∧
      (HeldFrom start history (.ofTemplate template) source ∨
        source = template ∧
          (start.after history).cache.entries[TemplateKey.ofTemplate template]? = none) := by
  have same := sameSettings_after start history
  rw [← same.trigger_eq] at looked
  obtain ⟨view, stepped, anew⟩ := step_eq_view looked
  rw [same.answerAnew_eq] at anew
  cases held : (start.after history).cache.entries[TemplateKey.ofTemplate template]? with
  | some set =>
    obtain ⟨source, origin, rfl⟩ := exists_heldFrom unused history held
    refine ⟨source, origin.digest_eq, ?_, .inl origin⟩
    rw [stepped, variants_hit held, anew, same.parse_eq]
  | none =>
    refine ⟨template, rfl, ?_, .inr ⟨rfl, rfl⟩⟩
    rw [stepped, variants_miss held, anew]

end Held

theorem lookups_after (h : Handler) (history : List Call) :
    (h.after history).cache.lookups = h.cache.lookups + history.countP (Call.looks h.trigger) := by
  induction history using List.reverseRecOn with
  | nil => rfl
  | append_singleton history call ih =>
    rw [after_append, lookups_perform, ih, (sameSettings_after h history).trigger_eq,
      List.countP_append, List.countP_singleton, Nat.add_assoc]

/-- After every history of a handler, each entry holds what the template spells that was looked
up by the call which missed its key and put it. A request is answered as without a cache, either
for the template of the entry under its digest or, if there is none, for its own template; a bare
key is answered with the entry under it. Each call that looks into the cache is counted once. -/
theorem history_provenance (trigger delimiter : String) (registry : Registry) (limit : CacheLimit)
    (history : List Call) :
    let start := fresh trigger delimiter registry limit
    let h := start.after history
    (∀ key set, h.cache.entries[key]? = some set →
      ∃ source, HeldFrom start history key source ∧ set = start.parse source) ∧
    (∀ request template, request.lookedUp? trigger = some template →
      ∃ source, TemplateKey.ofTemplate source = TemplateKey.ofTemplate template ∧
        (h.perform (.ask request)).1 = .answer (start.answerAnew (request.on source)) ∧
        (HeldFrom start history (.ofTemplate template) source ∨
          source = template ∧ h.cache.entries[TemplateKey.ofTemplate template]? = none)) ∧
    (∀ request, request.lookedUp? trigger = none →
      (h.perform (.ask request)).1 = .answer (start.answerAnew request)) ∧
    (∀ key set, (h.perform (.lookUp key)).1 = .found (some set) →
      ∃ source, HeldFrom start history key source ∧ set = start.parse source) ∧
    h.cache.lookups = history.countP (Call.looks trigger) ∧
    ∀ call, (h.perform call).2.cache.lookups =
      h.cache.lookups + if call.looks trigger then 1 else 0 := by
  intro start h
  have same : SameSettings h start := sameSettings_after start history
  have unused : start.cache.entries = ∅ := rfl
  refine ⟨fun key set held => exists_heldFrom unused history held,
    fun request template looked => ?_, fun request idle => ?_, fun key set answered => ?_, ?_,
    fun call => ?_⟩
  · obtain ⟨source, digest, answer, origin⟩ := exists_served unused history looked
    exact ⟨source, digest, congrArg Reply.answer answer, origin⟩
  · rw [← same.answerAnew_eq]
    have alone : request.lookedUp? h.trigger = none := same.trigger_eq ▸ idle
    exact congrArg Reply.answer (step_of_lookedUp_none alone).1
  · exact exists_heldFrom unused history (Reply.found.inj answered)
  · exact (lookups_after start history).trans (Nat.zero_add _)
  · rw [lookups_perform, same.trigger_eq]
    rfl

/-- The second of two templates with one digest is answered for the first. -/
theorem history_provenance_shared_digest :
    let start := fresh defaultTrigger defaultDelimiter .standard Cache.defaultLimit
    let h := start.after [.ask (.variants "7mohtcOFVz")]
    HeldFrom start [.ask (.variants "7mohtcOFVz")] (.ofTemplate "c1E51sSEyx") "7mohtcOFVz" ∧
    (h.perform (.ask (.select "c1E51sSEyx" (.integer 1) "en"))).1 =
      .answer (start.answerAnew (.select "7mohtcOFVz" (.integer 1) "en")) := by
  intro start h
  have shared : TemplateKey.ofTemplate "7mohtcOFVz" = TemplateKey.ofTemplate "c1E51sSEyx" := by
    decide +kernel
  obtain ⟨source, -, answer, origin⟩ := (history_provenance defaultTrigger defaultDelimiter
    .standard Cache.defaultLimit [.ask (.variants "7mohtcOFVz")]).2.1
      (.select "c1E51sSEyx" (.integer 1) "en") "c1E51sSEyx" rfl
  rcases origin with held | ⟨-, missed⟩
  · obtain ⟨call, member, looked⟩ := held.exists_call
    cases List.mem_singleton.1 member
    cases looked
    exact ⟨held, answer⟩
  · have put : (start.after [.ask (.variants "7mohtcOFVz")]).cache.entries[
        TemplateKey.ofTemplate "c1E51sSEyx"]? = some (start.parse "7mohtcOFVz") := by
      rw [← shared]
      change (start.variants "7mohtcOFVz").2.cache.entries[_]? = _
      rw [variants_miss Std.HashMap.getElem?_empty]
      exact Cache.lookup_put_self (by decide) _ _
    rw [put] at missed
    cases missed

end PluralTemplate.Handler
