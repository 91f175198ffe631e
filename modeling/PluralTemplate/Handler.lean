import PluralTemplate.Cache
import PluralTemplate.Selection
import PluralTemplate.Value

/-!
# Selecting variants by a parameter

A handler selects a variant of a template for the value of one parameter, its trigger.
It keeps the variants of templates in a cache, so each of its operations gives back the
handler after it as well.
-/

set_option autoImplicit false

namespace PluralTemplate

/-- The parameters of a message by name. -/
abbrev Parameters := Dictionary Value

structure Handler where
  /-- The parameter whose value selects a variant. -/
  trigger : String
  delimiter : String
  registry : Registry
  cache : Cache VariantSet

namespace Handler

def defaultTrigger : String := "count"

def defaultDelimiter : String := "|"

/-- Whether the parameters hold the trigger. -/
def needs (h : Handler) (parameters : Parameters) : Bool := parameters.contains h.trigger

/-- The variants of a template, from the cache if it holds them. The cache knows a
template by its key only, so templates with one key share an entry. -/
def variants (h : Handler) (template : String) : VariantSet × Handler :=
  let (set, cache) := h.cache.getOrInsertWith (.ofTemplate template) fun cache =>
    (VariantSet.ofTemplate template h.delimiter, cache)
  (set, { h with cache })

/-- The variant of a template for a quantity. -/
def selectVariant (h : Handler) (template : String) (q : Quantity) (locale : String) :
    String × Handler :=
  let (set, h) := h.variants template
  (set.select q locale h.registry, h)

/-- The variant of a template for the trigger: the template itself if the trigger is not
among the parameters, and the default variant if its value is not a number. -/
def getTemplate (h : Handler) (template : String) (parameters : Parameters)
    (locale : String) : String × Handler :=
  match parameters.get? h.trigger with
  | none => (template, h)
  | some value =>
    match value.quantity? with
    | some q => h.selectVariant template q locale
    | none =>
      let (set, h) := h.variants template
      (set.default, h)

/-- Look the variants of a template up in the cache without parsing it. -/
def cached (h : Handler) (template : String) : Option VariantSet × Handler :=
  let (found, cache) := h.cache.get (.ofTemplate template)
  (found, { h with cache })

/-- Forget all cached variants. -/
def clear (h : Handler) : Handler := { h with cache := h.cache.clear }

end Handler

end PluralTemplate
