import PluralTemplate.Handler
import PluralTemplate.Proofs.Cache.Operations

/-!
# When caching goes unnoticed

A run of requests is made on a handler with a fresh cache, and its answers are compared with
those of `answerAnew`, which parses every template anew. The cache knows a template by its
digest only. So the two agree on all runs over some templates just when the cache is switched
off, or no two of the templates share a digest and spell different variants
(`run_transparent_iff`).

The condition is not idle: two short templates that share a digest follow, and the second one
asked for is answered with the text of the first.
-/

set_option autoImplicit false

namespace PluralTemplate.Handler

/-- What can be asked of a handler. -/
inductive Request where
  | variants (template : String)
  | select (template : String) (q : Quantity) (locale : String)
  | message (template : String) (parameters : Parameters) (locale : String)
  | clear

inductive Answer where
  | set (variants : VariantSet)
  | text (s : String)
  | done

/-- A handler that has not been asked anything yet. -/
def fresh (trigger delimiter : String) (registry : Registry) (limit : CacheLimit) : Handler :=
  ⟨trigger, delimiter, registry, .empty limit⟩

def step (h : Handler) : Request → Answer × Handler
  | .variants template =>
    let (set, h) := h.variants template
    (.set set, h)
  | .select template q locale =>
    let (s, h) := h.selectVariant template q locale
    (.text s, h)
  | .message template parameters locale =>
    let (s, h) := h.getTemplate template parameters locale
    (.text s, h)
  | .clear => (.done, h.clear)

def run : Handler → List Request → List Answer × Handler
  | h, [] => ([], h)
  | h, request :: rest =>
    let (answer, h) := h.step request
    let (answers, final) := run h rest
    (answer :: answers, final)

/-- The variants of a template without a cache. -/
def parse (h : Handler) (template : String) : VariantSet := .ofTemplate template h.delimiter

/-- The answer to a request without a cache. -/
def answerAnew (h : Handler) : Request → Answer
  | .variants template => .set (h.parse template)
  | .select template q locale => .text ((h.parse template).select q locale h.registry)
  | .message template parameters locale =>
    match parameters.get? h.trigger with
    | none => .text template
    | some value =>
      match value.quantity? with
      | some q => .text ((h.parse template).select q locale h.registry)
      | none => .text (h.parse template).default
  | .clear => .done

/-- The template that a request looks up in the cache. A message without the trigger looks
nothing up. -/
def Request.lookedUp? (trigger : String) : Request → Option String
  | .variants template => some template
  | .select template _ _ => some template
  | .message template parameters _ => if parameters.contains trigger then some template else none
  | .clear => none

/-- The same request for another template. -/
def Request.on (source : String) : Request → Request
  | .variants _ => .variants source
  | .select _ q locale => .select source q locale
  | .message _ parameters locale => .message source parameters locale
  | .clear => .clear

theorem Request.on_lookedUp {trigger template : String} {request : Request}
    (looked : request.lookedUp? trigger = some template) : request.on template = request := by
  cases request with
  | clear => cases looked
  | variants _ => cases looked; rfl
  | select _ _ _ => cases looked; rfl
  | message _ parameters _ =>
    simp only [Request.lookedUp?] at looked
    split at looked
    · cases looked
      rfl
    · cases looked

/-- Two handlers that differ in the contents of their caches at most. -/
structure SameSettings (a b : Handler) : Prop where
  trigger_eq : a.trigger = b.trigger
  delimiter_eq : a.delimiter = b.delimiter
  registry_eq : a.registry = b.registry
  limit_eq : a.cache.limit = b.cache.limit

/-- Every cached set is what each of the given templates with its key spells. -/
def Faithful (requested : String → Prop) (h : Handler) : Prop :=
  h.cache.Holds fun key set =>
    ∀ template, requested template → TemplateKey.ofTemplate template = key → set = h.parse template

/-- Caching is off, or templates that share a key spell the same variants. -/
def Separated (requested : String → Prop) (h : Handler) : Prop :=
  h.cache.limit = .items 0 ∨
    ∀ first second, requested first → requested second →
      TemplateKey.ofTemplate first = TemplateKey.ofTemplate second →
        h.parse first = h.parse second

section Settings

variable {a b h : Handler} {requested : String → Prop}

theorem SameSettings.answerAnew_eq (same : SameSettings a b) : a.answerAnew = b.answerAnew := by
  funext request
  cases request <;>
    simp only [answerAnew, parse, same.trigger_eq, same.delimiter_eq, same.registry_eq]

theorem SameSettings.separated (same : SameSettings a b) (separated : Separated requested b) :
    Separated requested a := by
  simp only [Separated, parse, same.limit_eq, same.delimiter_eq]
  exact separated

theorem variants_hit {template : String} {set : VariantSet}
    (held : h.cache.entries[TemplateKey.ofTemplate template]? = some set) :
    h.variants template = (set, { h with cache := h.cache.countLookup true }) := by
  rw [variants, Cache.getOrInsertWith_hit held]

theorem variants_miss {template : String}
    (absent : h.cache.entries[TemplateKey.ofTemplate template]? = none) :
    h.variants template =
      (h.parse template,
        { h with
          cache := (h.cache.countLookup false).put (.ofTemplate template) (h.parse template) }) := by
  rw [variants, Cache.getOrInsertWith_miss_pure absent]
  rfl

theorem sameSettings_variants (h : Handler) (template : String) :
    SameSettings (h.variants template).2 h :=
  ⟨rfl, rfl, rfl, Cache.limit_getOrInsertWith_pure h.cache _ _⟩

/-- What a request does with the template it looks up is to view its variants, and it views
those of any other template alike. -/
theorem step_eq_view {request : Request} {template : String}
    (looked : request.lookedUp? h.trigger = some template) :
    ∃ view : VariantSet → Answer,
      h.step request = (view (h.variants template).1, (h.variants template).2) ∧
      ∀ source, h.answerAnew (request.on source) = view (h.parse source) := by
  cases request with
  | clear => cases looked
  | variants _ =>
    cases looked
    exact ⟨.set, rfl, fun _ => rfl⟩
  | select _ q locale =>
    cases looked
    exact ⟨fun set => .text (set.select q locale h.registry), rfl, fun _ => rfl⟩
  | message _ parameters locale =>
    simp only [Request.lookedUp?, Dictionary.contains] at looked
    cases bound : parameters.get? h.trigger with
    | none => simp [bound] at looked
    | some value =>
      obtain rfl : _ = template := by simpa [bound] using looked
      simp only [step, getTemplate, answerAnew, Request.on, bound]
      cases value.quantity? with
      | none => exact ⟨fun set => .text set.default, rfl, fun _ => rfl⟩
      | some q => exact ⟨fun set => .text (set.select q locale h.registry), rfl, fun _ => rfl⟩

/-- A request that looks nothing up is answered out of itself. -/
theorem step_of_lookedUp_none {request : Request} (looked : request.lookedUp? h.trigger = none) :
    (h.step request).1 = h.answerAnew request ∧
      ((h.step request).2 = h ∨ (h.step request).2 = h.clear) := by
  cases request with
  | clear => exact ⟨rfl, .inr rfl⟩
  | variants _ => cases looked
  | select _ _ _ => cases looked
  | message _ parameters _ =>
    simp only [Request.lookedUp?, Dictionary.contains] at looked
    cases bound : parameters.get? h.trigger with
    | none => simp [step, getTemplate, answerAnew, bound]
    | some value => simp [bound] at looked

/-- A lookup serves what the template spells, and leaves a cache that goes on to do so. -/
theorem variants_faithful (separated : Separated requested h) (faithful : Faithful requested h)
    {template : String} (asked : requested template) :
    (h.variants template).1 = h.parse template ∧ Faithful requested (h.variants template).2 := by
  cases held : h.cache.entries[TemplateKey.ofTemplate template]? with
  | some set =>
    rw [variants_hit held]
    exact ⟨faithful _ set held template asked rfl, faithful⟩
  | none =>
    rw [variants_miss held]
    refine ⟨rfl, ?_⟩
    have counted : Faithful requested { h with cache := h.cache.countLookup false } := faithful
    rcases separated with disabled | separated
    · rw [Cache.put_disabled ((Cache.limit_countLookup h.cache false).trans disabled)]
      exact counted
    · exact counted.put fun other known same => separated template other asked known same.symm

/-- A request is answered as without a cache if the one template it looks up is served so. -/
theorem step_faithful (separated : Separated requested h) (faithful : Faithful requested h)
    {request : Request}
    (asked : ∀ template, request.lookedUp? h.trigger = some template → requested template) :
    (h.step request).1 = h.answerAnew request ∧ Faithful requested (h.step request).2 ∧
      SameSettings (h.step request).2 h := by
  cases looked : request.lookedUp? h.trigger with
  | none =>
    obtain ⟨answer, after | after⟩ := step_of_lookedUp_none looked <;> rw [after]
    · exact ⟨answer, faithful, ⟨rfl, rfl, rfl, rfl⟩⟩
    · exact ⟨answer, Cache.Holds.clear h.cache, ⟨rfl, rfl, rfl, rfl⟩⟩
  | some template =>
    obtain ⟨view, stepped, anew⟩ := step_eq_view looked
    obtain ⟨served, after⟩ := variants_faithful separated faithful (asked template looked)
    rw [stepped, served, ← anew, Request.on_lookedUp looked]
    exact ⟨rfl, after, sameSettings_variants h template⟩

theorem run_faithful (separated : Separated requested h) (faithful : Faithful requested h)
    {requests : List Request}
    (asked : ∀ request ∈ requests, ∀ template,
      request.lookedUp? h.trigger = some template → requested template) :
    (h.run requests).1 = requests.map h.answerAnew := by
  induction requests generalizing h with
  | nil => rfl
  | cons request rest ih =>
    obtain ⟨answer, after, same⟩ :=
      step_faithful separated faithful (asked request List.mem_cons_self)
    have final := ih (same.separated separated) after fun next member => by
      rw [same.trigger_eq]
      exact asked next (List.mem_cons_of_mem _ member)
    simp only [run, List.map_cons, answer, final, same.answerAnew_eq]

end Settings

/-- Of two templates with one key, the first one asked for is what both are served. -/
theorem variants_of_shared_key (h : Handler) (enabled : h.cache.limit ≠ .items 0)
    {first second : String}
    (shared : TemplateKey.ofTemplate first = TemplateKey.ofTemplate second) :
    ((h.variants first).2.variants second).1 = (h.variants first).1 := by
  have stored : (h.variants first).2.cache.entries[TemplateKey.ofTemplate second]? =
      some (h.variants first).1 := by
    rw [← shared]
    cases held : h.cache.entries[TemplateKey.ofTemplate first]? with
    | some set =>
      rw [variants_hit held]
      exact held
    | none =>
      rw [variants_miss held]
      have counted : (h.cache.countLookup false).limit ≠ .items 0 := enabled
      exact Cache.lookup_put_self counted _ _
  rw [variants_hit stored]

/-- Every run over the given templates is answered as without a cache just when the cache is
switched off, or the digest separates the templates as far as their variants differ. -/
theorem run_transparent_iff (trigger delimiter : String) (registry : Registry)
    (limit : CacheLimit) (requested : String → Prop) :
    (∀ requests : List Request,
      (∀ request ∈ requests, ∀ template,
        request.lookedUp? trigger = some template → requested template) →
      ((fresh trigger delimiter registry limit).run requests).1 =
        requests.map (fresh trigger delimiter registry limit).answerAnew) ↔
    (limit = .items 0 ∨
      ∀ first second, requested first → requested second →
        TemplateKey.ofTemplate first = TemplateKey.ofTemplate second →
          VariantSet.ofTemplate first delimiter = VariantSet.ofTemplate second delimiter) := by
  constructor
  · intro transparent
    by_cases enabled : limit = .items 0
    · exact .inl enabled
    refine .inr fun first second askedFirst askedSecond shared => ?_
    have answers := transparent [.variants first, .variants second] (by
      intro request member template looked
      simp only [List.mem_cons, List.not_mem_nil, or_false] at member
      rcases member with rfl | rfl <;> cases looked <;> assumption)
    simp only [run, step, answerAnew, List.map_cons, List.map_nil, List.cons.injEq,
      Answer.set.injEq, and_true] at answers
    have served := variants_of_shared_key (fresh trigger delimiter registry limit) enabled shared
    exact (answers.1.symm.trans served.symm).trans answers.2
  · intro separated requests asked
    have apart : Separated requested (fresh trigger delimiter registry limit) := separated
    exact run_faithful apart (Cache.Holds.empty limit) asked

/-- Two templates of ten letters with one digest: a handler with the usual settings answers
for the second one with the text of the first. -/
theorem shared_digest_misleads :
    let h := fresh defaultTrigger defaultDelimiter .standard Cache.defaultLimit
    let requests : List Request :=
      [.select "7mohtcOFVz" (.integer 1) "en", .select "c1E51sSEyx" (.integer 1) "en"]
    (h.run requests).1 = [.text "7mohtcOFVz", .text "7mohtcOFVz"] ∧
      requests.map h.answerAnew = [.text "7mohtcOFVz", .text "c1E51sSEyx"] ∧
      (h.run requests).1 ≠ requests.map h.answerAnew := by
  intro h requests
  have shared : TemplateKey.ofTemplate "7mohtcOFVz" = TemplateKey.ofTemplate "c1E51sSEyx" := by
    decide +kernel
  have firstText : (VariantSet.ofTemplate "7mohtcOFVz" defaultDelimiter).select (.integer 1) "en"
      .standard = "7mohtcOFVz" := by decide +kernel
  have secondText : (VariantSet.ofTemplate "c1E51sSEyx" defaultDelimiter).select (.integer 1) "en"
      .standard = "c1E51sSEyx" := by decide +kernel
  have first : (h.variants "7mohtcOFVz").1 = h.parse "7mohtcOFVz" := by
    rw [variants_miss Std.HashMap.getElem?_empty]
  have second : ((h.variants "7mohtcOFVz").2.variants "c1E51sSEyx").1 = h.parse "7mohtcOFVz" :=
    (variants_of_shared_key h (by decide) shared).trans first
  have cached : (h.run requests).1 = [.text "7mohtcOFVz", .text "7mohtcOFVz"] := by
    change [Answer.text ((h.variants "7mohtcOFVz").1.select (.integer 1) "en" .standard),
      Answer.text (((h.variants "7mohtcOFVz").2.variants "c1E51sSEyx").1.select (.integer 1) "en"
        .standard)] = _
    rw [second, first]
    exact congrArg (fun s => [Answer.text s, Answer.text s]) firstText
  have anew : requests.map h.answerAnew = [.text "7mohtcOFVz", .text "c1E51sSEyx"] :=
    congr (congrArg (fun s t => [Answer.text s, Answer.text t]) firstText) secondText
  refine ⟨cached, anew, ?_⟩
  rw [cached, anew]
  simp

end PluralTemplate.Handler
