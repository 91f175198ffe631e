import PluralTemplate.Proofs.Resolver.Rendering
import PluralTemplate.Proofs.Resolver.Substitutions

/-!
# Templates without tokens

A walk takes a text as it is where no token occurs in it (`replaceTokens_eq_self`). A resolver
walks over the template twice, for the tokens of the parameters and for its replacements, and asks
its handler for parameters with the trigger only. So a template in which there is nothing to
replace is its own message, and the resolver is the same afterwards (`resolve_untouched`).
-/

set_option autoImplicit false

namespace PluralTemplate

namespace Text

variable {pairs : Dictionary String}

/-- A text in which no token occurs is copied to its end. -/
theorem walk_of_no_token {text : List Char}
    (absent : ∀ token replacement, IsToken pairs token replacement → ¬ token <:+: text) :
    Walk pairs text (text.map .copied) := by
  have copied : Walk pairs (text ++ []) (text.map .copied ++ []) := by
    refine Resolver.walk_copied (fun before c behind split token replacement isToken begins => ?_)
      .done
    rw [List.append_nil] at begins
    refine absent token replacement isToken (begins.isInfix.trans ?_)
    rw [split]
    exact (List.suffix_append before (c :: behind)).isInfix
  rwa [List.append_nil, List.append_nil] at copied

/-- Nothing is replaced where no key but the empty one occurs in the text. -/
theorem replaceTokens_eq_self {text : String}
    (absent : ∀ token replacement, pairs.get? token = some replacement → token ≠ "" →
      ¬ token.toList <:+: text.toList) :
    replaceTokens text pairs = text := by
  have walk : Walk pairs text.toList (text.toList.map .copied) := by
    refine walk_of_no_token fun token replacement isToken => ?_
    have missing := absent (String.ofList token) (String.ofList replacement) isToken.bound
      (by simpa using isToken.nonempty)
    rwa [String.toList_ofList] at missing
  apply String.toList_injective
  rw [walk.toList_replaceTokens, Resolver.flatMap_output_copied]

end Text

namespace Resolver

/-- A handler is left alone if its trigger is not among the parameters. -/
theorem variant_of_idle {r : Resolver} {parameters : Parameters}
    (idle : ∀ h ∈ r.handler, h.needs parameters = false) (template locale : String) :
    r.variant template parameters locale = (template, r) := by
  unfold variant
  cases handler : r.handler with
  | none => rfl
  | some h => simp only [idle h handler, Bool.false_eq_true, if_false]

/-- Every token of the parameters is the wrapped name that a filter gives one of them. -/
theorem replaceTokens_substitutions_eq_self {r : Resolver} {parameters : Parameters}
    {template : String}
    (noToken : ∀ name value, parameters.get? name = some value → ∀ filter ∈ r.filters,
      filter name ≠ "" → ¬ (r.wrap (filter name)).toList <:+: template.toList) :
    Text.replaceTokens template (r.substitutions parameters) = template := by
  refine Text.replaceTokens_eq_self fun token replacement bound _ => ?_
  obtain ⟨p, makes, -, -⟩ := get?_substitutions_eq_some_iff.1 bound
  rw [← makes.wrapped]
  exact noToken p.name p.value makes.bound p.filter (List.mem_of_getElem? makes.chained)
    makes.nonempty

/-- Without the trigger among the parameters, a template in which neither a token of the parameters
nor a search text of the replacements occurs is its own message. The resolver, and with it the
cache of the handler and what it has counted, stays as it was. -/
theorem resolve_untouched (r : Resolver) (template locale : String) (parameters : Parameters)
    (idle : ∀ h ∈ r.handler, h.needs parameters = false)
    (noToken : ∀ name value, parameters.get? name = some value → ∀ filter ∈ r.filters,
      filter name ≠ "" → ¬ (r.wrap (filter name)).toList <:+: template.toList)
    (noSearch : ∀ search replace, r.replacements.get? search = some replace → search ≠ "" →
      ¬ search.toList <:+: template.toList) :
    r.resolve template parameters locale = (template, r) := by
  have message : (r.resolve template parameters locale) =
      (Text.replaceTokens (Text.replaceTokens (r.variant template parameters locale).1
        (r.substitutions parameters)) r.replacements,
        (r.variant template parameters locale).2) := rfl
  rw [message, variant_of_idle idle, replaceTokens_substitutions_eq_self noToken,
    Text.replaceTokens_eq_self noSearch]

/-- A name in another case than the filters give it, one with the affix on one side only, and beside
an empty search text one that does not occur. The handler has parsed the template before. -/
theorem resolve_untouched_near_tokens :
    let template := "žluť \x7b\x7bNaMe\x7d\x7d \x7b\x7bname \x7bname\x7d\x7d|kůň"
    let handler := ((Handler.fresh "count" "|" .standard (.items 1)).run [.variants template]).2
    let r : Resolver := ⟨"\x7b\x7b", "\x7d\x7d", [Filter.stringify, Filter.upper],
      .ofList [("", "!"), ("Kůň", "horse")], some handler⟩
    r.resolve template (.ofList [("name", .text "x"), ("counts", .number 2)]) "en" =
      (template, r) := by
  intro template handler r
  have idle : ∀ h ∈ r.handler,
      h.needs (.ofList [("name", .text "x"), ("counts", .number 2)]) = false := by
    rintro _ ⟨⟩
    decide +kernel
  have noToken : ∀ entry ∈ (Dictionary.ofList [("name", Value.text "x"),
      ("counts", Value.number 2)]).entries, ∀ filter ∈ [Filter.stringify, Filter.upper],
      filter entry.1 ≠ "" → ¬ (r.wrap (filter entry.1)).toList <:+: template.toList := by
    decide +kernel
  have noSearch : ∀ entry ∈ r.replacements.entries, entry.1 ≠ "" →
      ¬ entry.1.toList <:+: template.toList := by
    decide +kernel
  exact resolve_untouched r template "en" _ idle
    (fun name value bound => noToken (name, value) (Dictionary.get?_eq_some_iff.1 bound))
    (fun search replace bound => noSearch (search, replace) (Dictionary.get?_eq_some_iff.1 bound))

end Resolver

end PluralTemplate
