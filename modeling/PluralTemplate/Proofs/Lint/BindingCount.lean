import PluralTemplate.Proofs.Dictionary
import PluralTemplate.Proofs.Lint.Duplicates

/-!
# Warnings and bindings add up

The warnings and the variant set are made by two walks over the same parts, which keep their own
dictionaries. Both hold the values that were listed so far (`sameKeys_ofPart`), so a value that is
listed is warned about just where it is no new entry of the set. Hence each listed literal makes a
warning or an entry (`countP_ofParts`). Without a warning no later part takes over a value, and each
literal selects its own part.
-/

set_option autoImplicit false

namespace PluralTemplate

/-- Whether the warning is about a value that is bound again. -/
def Warning.isDuplicate : Warning → Bool
  | malformedRule _ _ _ => false
  | emptyInterval _ _ _ => false
  | duplicateExplicitValue _ _ _ _ => true

namespace Lint

open Text (byteCount)
open Grammar (Lists)

variable {index offset : Nat} {bound : Dictionary Nat}

/-- Two dictionaries hold the same keys. -/
def SameKeys {α : Type} (bound : Dictionary Nat) (held : Dictionary α) : Prop :=
  ∀ key, bound.contains key = held.contains key

theorem SameKeys.insert {α : Type} {held : Dictionary α} (same : SameKeys bound held)
    (key : String) (index : Nat) (value : α) :
    SameKeys (bound.insert key index) (held.insert key value) := by
  intro other
  simp [Dictionary.contains_insert, same other]

/-! ## One part -/

theorem sameKeys_rebind {held : Dictionary String} (same : SameKeys bound held)
    (values : List String) (template : String) :
    SameKeys (rebind index offset bound values).2
      (values.foldl (fun d value => d.insert value template) held) := by
  induction values generalizing bound held with
  | nil => exact same
  | cons value rest ih =>
    rw [rebind_cons_snd, List.foldl_cons]
    exact ih (same.insert value index template)

/-- Each value makes a warning or an entry. -/
theorem countP_rebind {held : Dictionary String} (same : SameKeys bound held)
    (values : List String) (template : String) :
    (rebind index offset bound values).1.countP Warning.isDuplicate +
        (values.foldl (fun d value => d.insert value template) held).size =
      held.size + values.length := by
  induction values generalizing bound held with
  | nil => simp [rebind]
  | cons value rest ih =>
    have later := ih (same.insert value index template)
    have present : (bound.get? value).isSome = held.contains value := same value
    rw [rebind_cons, List.countP_append, List.foldl_cons, List.length_cons]
    rw [Dictionary.size_insert, ← present] at later
    cases found : bound.get? value with
    | none =>
      simp only [found, Option.isSome_none, Bool.false_eq_true, if_false] at later
      simp only [Option.map_none, Option.toList_none, List.countP_nil]
      omega
    | some previous =>
      simp only [found, Option.isSome_some, if_true] at later
      simp only [Option.map_some, Option.toList_some, List.countP_singleton, Warning.isDuplicate,
        if_true]
      omega

theorem sameKeys_ofPart {set : VariantSet} (same : SameKeys bound set.explicit)
    (index offset : Nat) (text : String) :
    SameKeys (ofPart index offset bound text).2 (set.add (Part.ofText text)).explicit := by
  unfold ofPart
  cases Part.ofText text with
  | explicit values template => exact sameKeys_rebind same values template
  | interval rule template => exact same
  | plain template => exact same

theorem countP_ofPart {set : VariantSet} (same : SameKeys bound set.explicit)
    (index offset : Nat) (text : String) :
    (ofPart index offset bound text).1.countP Warning.isDuplicate +
        (set.add (Part.ofText text)).explicit.size =
      set.explicit.size + (Part.ofText text).values.length := by
  unfold ofPart
  cases Part.ofText text with
  | explicit values template => exact countP_rebind same values template
  | interval rule template =>
    dsimp only
    split <;> simp [Part.values, VariantSet.add, Warning.isDuplicate]
  | plain template =>
    dsimp only
    split <;> simp [Part.values, VariantSet.add, Warning.isDuplicate]

/-! ## Templates -/

theorem countP_ofParts {set : VariantSet} (same : SameKeys bound set.explicit)
    (gap index offset : Nat) (texts : List String) :
    (ofParts gap index offset bound texts).countP Warning.isDuplicate +
        ((texts.map Part.ofText).foldl VariantSet.add set).explicit.size =
      set.explicit.size + ((texts.map Part.ofText).flatMap Part.values).length := by
  induction texts generalizing index offset bound set with
  | nil => simp [ofParts]
  | cons text rest ih =>
    have here := countP_ofPart same index offset text
    have behind := ih (sameKeys_ofPart same index offset text) (index + 1)
      (offset + byteCount text.toList + gap)
    rw [ofParts_cons, List.countP_append, List.map_cons, List.foldl_cons, List.flatMap_cons,
      List.length_append]
    omega

variable {template delimiter : String}

theorem not_reported_of_countP {previous : Nat} {value : String}
    (none : (ofTemplate template delimiter).countP Warning.isDuplicate = 0) :
    ¬ Reported template delimiter index previous value := by
  rintro ⟨offset, member⟩
  exact List.countP_eq_zero.1 none _ member rfl

/-- A quantity that a part lists selects that part unless a later one is warned about. -/
theorem select_of_unreported {text t : String} {r : Grammar.ListRule} {q : Quantity}
    (here : (Text.split delimiter template)[index]? = some text) (heads : r.Heads text t)
    (listed : Lists text q.canonical)
    (last : ¬ ∃ next, index < next ∧ Reported template delimiter next index q.canonical)
    (locale : String) (registry : Registry) :
    (VariantSet.ofTemplate template delimiter).select q locale registry = t := by
  rw [VariantSet.select_eq_getD, get?_explicit_of_unreported here heads listed last]
  rfl

/-- Each literal that is listed in an explicit part, which has a value for each, makes a warning or
an entry of the variant set. If there are no warnings about values that are bound again, every
literal that a part lists selects that part. -/
theorem duplicates_counted (template delimiter : String) :
    let texts := Text.split delimiter template
    let set := VariantSet.ofTemplate template delimiter
    let duplicates := (ofTemplate template delimiter).countP Warning.isDuplicate
    duplicates + set.explicit.size = ((texts.map Part.ofText).flatMap Part.values).length ∧
    (∀ (text : String) (r : Grammar.ListRule) (t : String), r.Heads text t →
      (Part.ofText text).values = r.literals.map Grammar.Literal.canonical) ∧
    (duplicates = 0 →
      ∀ text ∈ texts, ∀ (r : Grammar.ListRule) (t : String), r.Heads text t →
        ∀ l ∈ r.literals, ∃ q, Quantity.parse? (String.ofList l.chars) = some q ∧
          ∀ (locale : String) (registry : Registry), set.select q locale registry = t) := by
  intro texts set duplicates
  refine ⟨?_, fun text r t heads => ?_, fun none text member r t heads l among => ?_⟩
  · have start : SameKeys .empty (VariantSet.empty
        (((texts.map Part.ofText).head?.map Part.template).getD template)).explicit :=
      fun key => rfl
    have sum := countP_ofParts start (byteCount delimiter.toList) 0 0 texts
    exact sum.trans (Nat.zero_add _)
  · rw [heads.ofText_eq]
    rfl
  · obtain ⟨index, here⟩ := List.mem_iff_getElem?.1 member
    obtain ⟨q, parsed, canonical⟩ := l.exists_quantity
    have listed : Lists text q.canonical := by
      rw [canonical]
      exact ⟨r, t, heads, List.mem_map_of_mem among⟩
    refine ⟨q, parsed, select_of_unreported here heads listed ?_⟩
    rintro ⟨next, -, reported⟩
    exact not_reported_of_countP none reported

/-- Without a value that is bound twice, `2.50` selects the part that lists it. -/
theorem duplicates_counted_none :
    (ofTemplate "one|\x7b1,2.50\x7dsome|[0,9]few" "|").countP Warning.isDuplicate = 0 ∧
      ∃ q, Quantity.parse? "2.50" = some q ∧
        ∀ (locale : String) (registry : Registry),
          (VariantSet.ofTemplate "one|\x7b1,2.50\x7dsome|[0,9]few" "|").select q locale registry =
            "some" := by
  have zero :
      (ofTemplate "one|\x7b1,2.50\x7dsome|[0,9]few" "|").countP Warning.isDuplicate = 0 := by
    decide +kernel
  let rest : Grammar.Literal := .ofScaled false 250 2
  let r : Grammar.ListRule := .bare (.ofScaled false 1 0) [rest]
  have heads : r.Heads "\x7b1,2.50\x7dsome" "some" :=
    ⟨.none, ⟨"some".toList, startsOutside_cons rfl _⟩, by decide +kernel, by decide +kernel⟩
  exact ⟨zero, (duplicates_counted _ _).2.2 zero _ (by decide +kernel) r "some" heads rest
    (by simp [r, Grammar.ListRule.literals, Grammar.ListRule.bare])⟩

end Lint

end PluralTemplate
