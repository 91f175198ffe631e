import PluralTemplate.Filter
import PluralTemplate.Handler
import PluralTemplate.Text.Replace

/-!
# Resolving templates

A resolver turns a template into a message. It selects a variant, puts the texts of the
parameters in place of their tokens, and last makes its fixed replacements.

The token of a parameter is its name between an opening and a closing affix. Every filter
of the resolver gives each parameter one more token: the filter is applied to the name
and to the text of the value.
-/

set_option autoImplicit false

namespace PluralTemplate

structure Resolver where
  opening : String
  closing : String
  filters : List Filter
  replacements : Dictionary String
  handler : Option Handler

namespace Resolver

def defaultOpening : String := "\x7b"

def defaultClosing : String := "\x7d"

/-- A resolver with the filter that changes nothing. -/
def ofAffixes (opening closing : String) (handler : Option Handler) : Resolver :=
  ⟨opening, closing, [Filter.stringify], .empty, handler⟩

def addFilter (r : Resolver) (filter : Filter) : Resolver :=
  { r with filters := r.filters ++ [filter] }

def addReplacement (r : Resolver) (search replace : String) : Resolver :=
  { r with replacements := r.replacements.insert search replace }

/-- The token of a name. An affix that the name carries already is not added again. -/
def wrap (r : Resolver) (name : String) : String :=
  (if r.opening.toList.isPrefixOf name.toList then "" else r.opening) ++ name
    ++ (if r.closing.toList.isSuffixOf name.toList then "" else r.closing)

/-- The tokens of one parameter with what they become, filter by filter. A name that a
filter makes empty has no token. -/
def tokensOf (r : Resolver) (name : String) (value : Value) : List (String × String) :=
  r.filters.filterMap fun filter =>
    if (filter name).isEmpty then none else some (r.wrap (filter name), filter value.display)

/-- All tokens of the parameters. Names are visited in order, and of two equal tokens the
later one counts. -/
def substitutions (r : Resolver) (parameters : Parameters) : Dictionary String :=
  .ofList (parameters.entries.flatMap fun entry => r.tokensOf entry.1 entry.2)

/-- The text in which tokens are replaced: the variant for the trigger, if there is a
handler and the parameters hold its trigger, and the template otherwise. -/
def variant (r : Resolver) (template : String) (parameters : Parameters)
    (locale : String) : String × Resolver :=
  match r.handler with
  | none => (template, r)
  | some handler =>
    if handler.needs parameters then
      let (text, handler) := handler.getTemplate template parameters locale
      (text, { r with handler := some handler })
    else (template, r)

/-- The message of a template. -/
def resolve (r : Resolver) (template : String) (parameters : Parameters)
    (locale : String) : String × Resolver :=
  let (text, after) := r.variant template parameters locale
  (Text.replaceTokens (Text.replaceTokens text (r.substitutions parameters)) r.replacements,
    after)

end Resolver

end PluralTemplate
