import PluralTemplate.Proofs.Handler.Provenance
import PluralTemplate.Proofs.Quantity.Spellings

/-!
# Which texts are numbers

A plain text for a number is a decimal literal as rules have it, or `inf` in any letter case behind
an optional sign. Every plain text is a number, but a text can be one without being plain: the word
`infinity`, and a decimal that has a plus sign, an exponent, or no digits on one side of its point
(`plain_chars_iff`).

A text that is no number stands for no quantity, so a handler answers it with a default variant:
that of the template it is asked for, or of the one whose variants it holds under the same digest.
-/

set_option autoImplicit false

namespace PluralTemplate.Numeral

open Grammar (Digits Literal)
open Text (SameButCase)

/-! ## Plain texts -/

/-- A decimal literal, or `inf` in any letter case behind an optional sign. -/
def Plain (text : List Char) : Prop :=
  (∃ l : Literal, l.chars = text) ∨
    ∃ (sign : Sign) (word : List Char), SameButCase word ['i', 'n', 'f'] ∧ sign.chars ++ word = text

namespace Spelling

/-- A decimal is plain if it has digits in front of the point and behind it, no plus sign and no
exponent; the longer word for infinity never is. -/
def IsPlain : Spelling → Prop
  | decimal sign mantissa exponent =>
    sign ≠ .plus ∧ mantissa.whole ≠ [] ∧ mantissa.fraction ≠ some [] ∧ exponent = none
  | infinity _ _ _ => True
  | infinityInFull _ _ _ => False

/-- A plain decimal is a literal. -/
theorem exists_literal {sign : Sign} {m : Mantissa} (signed : sign ≠ .plus) (digits : m.whole ≠ [])
    (behind : m.fraction ≠ some []) :
    ∃ l : Literal, l.chars = (decimal sign m none).chars := by
  obtain ⟨places, spelled⟩ : ∃ d : Option Digits, d.map Digits.chars = m.fraction := by
    cases fraction : m.fraction with
    | none => exact ⟨none, rfl⟩
    | some places =>
      have some : places ≠ [] := fun none => behind (none ▸ fraction)
      exact ⟨Option.some ⟨places, some, m.fractionDigits places fraction⟩, rfl⟩
  let l : Literal := ⟨sign == .minus, ⟨m.whole, digits, m.wholeDigits⟩, places⟩
  have signs : Literal.signChars l.negative = sign.chars := by
    cases sign with
    | absent => rfl
    | minus => rfl
    | plus => exact absurd rfl signed
  have fractions : l.fractionChars = pointChars m.fraction := by
    rw [← spelled]
    cases places <;> rfl
  refine ⟨l, ?_⟩
  rw [Literal.chars, Literal.body, signs, fractions, chars, body, exponentChars, List.append_nil]
  rfl

theorem plain_of_isPlain {s : Spelling} (plain : s.IsPlain) : Plain s.chars := by
  cases s with
  | infinity sign word named => exact .inr ⟨sign, word, named, rfl⟩
  | infinityInFull _ _ _ => exact plain.elim
  | decimal sign m exponent =>
    obtain ⟨signed, digits, behind, rfl⟩ := plain
    exact .inl (exists_literal signed digits behind)

/-- What is spelled like a literal is a decimal with the parts of one. -/
theorem isPlain_of_literal {s : Spelling} {l : Literal} (same : l.chars = s.chars) : s.IsPlain := by
  have bodies : l.body = s.body := by
    have split := congrArg splitSign same
    rw [Grammar.splitSign_chars, splitSign_chars] at split
    exact congrArg Prod.snd split
  have noWord : ∀ {name : List Char}, ¬ SameButCase s.body ('i' :: name) := by
    intro name named
    rw [← bodies, ← Text.map_toLower_eq_iff] at named
    exact Grammar.map_toLower_body_ne l rfl _ named
  cases s with
  | infinity _ word named => exact (noWord named).elim
  | infinityInFull _ word named => exact (noWord named).elim
  | decimal sign m exponent =>
    have whole := congrArg (List.takeWhile Char.isDigit) bodies
    have behind := congrArg (List.dropWhile Char.isDigit) bodies
    rw [l.takeWhile_body, body, takeWhile_decimal] at whole
    rw [l.dropWhile_body, body, dropWhile_decimal] at behind
    have unsigned : sign ≠ .plus := by
      rintro rfl
      have plus : '+' ∈ l.chars := same ▸ List.mem_cons_self
      rcases l.of_mem_chars plus with minus | point | digit
      · cases minus
      · cases point
      · cases digit
    have split := congrArg splitFraction behind
    rw [Grammar.splitFraction_fractionChars, splitFraction_append] at split
    cases exponent with
    | some e => exact absurd (congrArg Prod.snd split).symm (List.cons_ne_nil _ _)
    | none =>
      refine ⟨unsigned, whole ▸ l.whole.nonempty, fun bare => ?_, rfl⟩
      rw [bare, Literal.fractionChars] at behind
      split at behind
      · cases behind
      · rename_i digits _
        exact digits.nonempty (List.cons.inj behind).2

/-- What is spelled like the shorter word for infinity is that word. -/
theorem isPlain_of_infinity {s : Spelling} {sign : Sign} {word : List Char}
    (named : SameButCase word ['i', 'n', 'f']) (same : sign.chars ++ word = s.chars) :
    s.IsPlain := by
  have bodies : word = s.body := by
    have split := congrArg splitSign same
    rw [splitSign_append sign (startsOutside_named named), splitSign_chars] at split
    exact congrArg Prod.snd split
  subst bodies
  cases s with
  | infinity _ _ _ => trivial
  | infinityInFull _ long full =>
    have lengths := full.length_eq.symm.trans named.length_eq
    cases lengths
  | decimal _ m e =>
    exact absurd (Text.map_toLower_eq_iff.2 named)
      (m.map_toLower_ne (exponentChars e) rfl (by decide) ['n', 'f'])

/-- Whether what is spelled is plain shows in its parts. -/
theorem plain_chars_iff (s : Spelling) : Plain s.chars ↔ s.IsPlain := by
  refine ⟨?_, plain_of_isPlain⟩
  rintro (⟨l, literal⟩ | ⟨sign, word, named, infinity⟩)
  · exact isPlain_of_literal literal
  · exact isPlain_of_infinity named infinity

end Spelling

theorem Plain.exists_spelling {text : List Char} (plain : Plain text) :
    ∃ s : Spelling, s.chars = text := by
  rcases plain with ⟨l, rfl⟩ | ⟨sign, word, named, rfl⟩
  · exact exists_spelling_of_binary64? (Grammar.binary64?_chars l) (by rintro ⟨⟩)
  · exact ⟨.infinity sign word named, rfl⟩

end PluralTemplate.Numeral

namespace PluralTemplate.Handler

/-- After a history, a trigger that is no number is answered with the default variant of a template
with the digest of the one asked for. -/
theorem exists_default_served {start : Handler} (unused : start.cache.entries = ∅)
    (history : List Call) {value : Value} (noNumber : value.quantity? = none)
    {parameters : Parameters} (given : parameters.get? start.trigger = some value)
    (template locale : String) :
    ∃ source, TemplateKey.ofTemplate source = TemplateKey.ofTemplate template ∧
      ((start.after history).getTemplate template parameters locale).1 =
        (start.parse source).default ∧
      (HeldFrom start history (.ofTemplate template) source ∨
        source = template ∧
          (start.after history).cache.entries[TemplateKey.ofTemplate template]? = none) := by
  have looked : (Request.message template parameters locale).lookedUp? start.trigger =
      some template := by
    rw [Request.lookedUp?, Dictionary.contains, given]
    rfl
  obtain ⟨source, digest, answer, origin⟩ := exists_served unused history looked
  refine ⟨source, digest, Answer.text.inj ?_, origin⟩
  rw [Request.on, answerAnew, given] at answer
  simp only [noNumber] at answer
  exact answer

end PluralTemplate.Handler

namespace PluralTemplate.Value

open Numeral (Plain Spelling)

/-- A text is a number just when it is spelled as one, apart from white space around it. Every plain
text is, and of what is spelled just the plain decimals and the shorter word for infinity are plain
texts. After every history of a handler, a message whose trigger is a text that is no number is
answered with the default variant of a template with the digest of its own: the one that the
handler holds the variants of under that digest, or its own if there is none. -/
theorem text_is_number_iff (text : String) :
    let chars := Text.strip Text.isWhiteSpace text.toList
    ((Value.text text).quantity?.isSome = true ↔ ∃ s : Spelling, s.chars = chars) ∧
    (Plain chars → (Value.text text).quantity?.isSome = true) ∧
    (∀ s : Spelling, s.chars = chars → (Plain chars ↔ s.IsPlain)) ∧
    ((Value.text text).quantity? = none →
      ∀ (trigger delimiter : String) (registry : Registry) (limit : CacheLimit)
        (history : List Handler.Call) (template : String) (parameters : Parameters)
        (locale : String), parameters.get? trigger = some (.text text) →
        let start := Handler.fresh trigger delimiter registry limit
        let h := start.after history
        ∃ source, TemplateKey.ofTemplate source = TemplateKey.ofTemplate template ∧
          (h.getTemplate template parameters locale).1 =
            (VariantSet.ofTemplate source delimiter).default ∧
          (Handler.HeldFrom start history (.ofTemplate template) source ∨
            source = template ∧
              h.cache.entries[TemplateKey.ofTemplate template]? = none)) := by
  intro chars
  refine ⟨Quantity.isSome_parse?_iff,
    fun plain => Quantity.isSome_parse?_iff.2 plain.exists_spelling, ?_, ?_⟩
  · rintro s same
    rw [← same]
    exact s.plain_chars_iff
  · intro noNumber trigger delimiter registry limit history template parameters locale given
    exact Handler.exists_default_served rfl history noNumber given template locale

/-- A word that is no number is answered with the first variant, also once the handler holds them. -/
theorem text_is_number_iff_dozen :
    let start := Handler.fresh Handler.defaultTrigger Handler.defaultDelimiter .standard
      Cache.defaultLimit
    let template := "\x7b0\x7dnone|[0,Inf]many"
    (Value.text "dozen").quantity? = none ∧
    ((start.after [.ask (.variants template)]).getTemplate template
      (.ofList [("count", .text "dozen")]) "en").1 = "none" := by
  intro start template
  have noNumber : (Value.text "dozen").quantity? = none := by decide
  obtain ⟨source, -, answer, origin⟩ := (text_is_number_iff "dozen").2.2.2 noNumber
    Handler.defaultTrigger Handler.defaultDelimiter .standard Cache.defaultLimit
    [.ask (.variants template)] template (.ofList [("count", .text "dozen")]) "en" (by decide)
  have own : source = template := by
    rcases origin with held | ⟨own, -⟩
    · obtain ⟨call, member, looked⟩ := held.exists_call
      cases List.mem_singleton.1 member
      exact (Option.some.inj looked).symm
    · exact own
  subst own
  refine ⟨noNumber, answer.trans ?_⟩
  decide +kernel

/-- The longer word for infinity is no plain text, but it is a number, and selects a variant that is
not the default. -/
theorem infinity_in_full_selects :
    let h := Handler.fresh Handler.defaultTrigger Handler.defaultDelimiter .standard
      Cache.defaultLimit
    let template := "\x7b0\x7dnone|[0,Inf]many"
    ¬ Plain (Text.strip Text.isWhiteSpace "infinity".toList) ∧
    (Value.text "infinity").quantity?.isSome = true ∧
    (h.parse template).default = "none" ∧
    (h.getTemplate template (.ofList [("count", .text "infinity")]) "en").1 = "many" := by
  intro h template
  have infinite : (Value.text "infinity").quantity? =
      some (.measure (.signed false .infinity) (by rintro ⟨⟩) (by decide +kernel)) := by
    decide +kernel
  refine ⟨fun plain => ?_, Option.isSome_of_eq_some infinite, by decide +kernel, ?_⟩
  · let inFull : Spelling := .infinityInFull .absent "infinity".toList
      (Text.map_toLower_eq_iff.1 (by decide))
    have stripped : Text.strip Text.isWhiteSpace "infinity".toList = inFull.chars := by decide
    rw [stripped] at plain
    exact inFull.plain_chars_iff.1 plain
  · have given : (Dictionary.ofList [("count", Value.text "infinity")]).get? h.trigger =
        some (.text "infinity") := by decide
    rw [Handler.getTemplate, given]
    simp only [infinite]
    rw [Handler.selectVariant, Handler.variants_miss Std.HashMap.getElem?_empty]
    decide +kernel

end PluralTemplate.Value
