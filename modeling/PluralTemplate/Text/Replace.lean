import PluralTemplate.Dictionary
import PluralTemplate.Text.Bytes

/-!
# Replacing tokens

All tokens are replaced in one pass from the left. The tokens stand in one order for the
whole pass, those of more bytes first, and at each place the first of them that the rest
of the text begins with is replaced. The pass goes on behind the bytes of the token, so
that what was put in is not looked at again. An empty token would be found at every place
and is left out.
-/

set_option autoImplicit false

namespace PluralTemplate.Text

/-- A token and what stands in its place. That the token is not empty is what brings a
pass over a text to its end. -/
structure Substitution where
  token : List Char
  replacement : List Char
  token_ne_nil : token ≠ []

/-- The substitution of a binding, unless its token is empty. -/
def Substitution.ofBinding? (entry : String × String) : Option Substitution :=
  if h : entry.1.toList = [] then none else some ⟨entry.1.toList, entry.2.toList, h⟩

/-- The substitutions in the order in which they are tried: more bytes first, and as in
the dictionary among tokens of as many bytes. -/
def Substitution.ordered (pairs : Dictionary String) : List Substitution :=
  (pairs.entries.filterMap ofBinding?).mergeSort fun a b =>
    decide (byteCount b.token ≤ byteCount a.token)

/-- The text with its tokens replaced. -/
def replaceAll (substitutions : List Substitution) : List Char → List Char
  | [] => []
  | c :: rest =>
    match substitutions.find? fun s => s.token.isPrefixOf (c :: rest) with
    | some s =>
      s.replacement ++ replaceAll substitutions (dropBytes (byteCount s.token) (c :: rest))
    | none => c :: replaceAll substitutions rest
termination_by text => text.length
decreasing_by
  · exact length_dropBytes_lt (byteCount_pos s.token_ne_nil) c rest
  · exact Nat.lt_succ_self _

/-- The text with its tokens replaced. -/
def replaceTokens (text : String) (pairs : Dictionary String) : String :=
  match Substitution.ordered pairs with
  | [] => text
  | first :: more => String.ofList (replaceAll (first :: more) text.toList)

end PluralTemplate.Text
