import PluralTemplate.Proofs.Dictionary
import PluralTemplate.Proofs.Interval.Emptiness
import PluralTemplate.Proofs.Selection.ByParts

/-!
# How parts of different kinds are interleaved

A variant set keeps the order of the parts of each kind, and not how the kinds alternate. So two
lists of parts with the same explicit parts, the same intervals and the same plain parts, each in
the same order, give sets that differ in their defaults at most, and select alike whatever is not
left to the default (`VariantSet.interleaving_reaches_default_only`). The default is the text of
the first part of all.

Intervals are the same if their bounds are equal as numbers, so that a zero with a sign is as good
as one without.
-/

set_option autoImplicit false

namespace PluralTemplate

/-! ## Intervals with the same bounds -/

theorem Binary64.position_of_same {x y : Binary64} (equal : x.same y = true) :
    x.position = y.position := by
  unfold same at equal
  split at equal
  · rename_i xPlace yPlace
    rw [xPlace, yPlace, eq_of_beq equal]
  · cases equal

theorem Binary64.same_self {x : Binary64} (isNumber : x ≠ .nan) : x.same x = true := by
  cases x with
  | nan => exact absurd rfl isNumber
  | signed negative m => exact beq_self_eq_true _

namespace Interval

theorem contains_of_same {i j : Interval} (equal : i.same j = true) (x : Binary64) :
    i.contains x = j.contains x := by
  simp only [same, Bool.and_eq_true, beq_iff_eq] at equal
  obtain ⟨⟨⟨lower, upper⟩, lowerInclusive⟩, upperInclusive⟩ := equal
  simp only [contains, Binary64.same, Binary64.below, Binary64.position_of_same lower,
    Binary64.position_of_same upper, lowerInclusive, upperInclusive]

theorem same_self {i : Interval} (bounded : i.Bounded) : i.same i = true := by
  simp [same, Binary64.same_self bounded.lower_ne, Binary64.same_self bounded.upper_ne]

end Interval

/-! ## Parts by kind -/

namespace Part

def isExplicit : Part → Bool
  | explicit _ _ => true
  | _ => false

/-- The interval of a part with its text. -/
def interval? : Part → Option (Interval × String)
  | interval rule template => some (rule, template)
  | _ => none

/-- The same interval and the same text. -/
def SameEntry (a b : Interval × String) : Prop := a.1.same b.1 = true ∧ a.2 = b.2

/-- Two lists of parts hold the same parts of each kind, in the same order. -/
structure SameByKind (parts others : List Part) : Prop where
  explicit : parts.filter isExplicit = others.filter isExplicit
  intervals : List.Forall₂ SameEntry (parts.filterMap interval?) (others.filterMap interval?)
  plain : parts.filter isPlain = others.filter isPlain

theorem exists_interval_of_interval? {part : Part} {entry : Interval × String}
    (found : part.interval? = some entry) : part = .interval entry.1 entry.2 := by
  cases part with
  | interval rule template => rw [← Option.some.inj found]
  | explicit _ _ => cases found
  | plain _ => cases found

/-- Intervals that are read are the same as themselves, so parts that are identical are the same. -/
theorem SameByKind.of_eq {texts : List String} {others : List Part}
    (explicit : (texts.map ofText).filter isExplicit = others.filter isExplicit)
    (intervals : (texts.map ofText).filterMap interval? = others.filterMap interval?)
    (plain : (texts.map ofText).filter isPlain = others.filter isPlain) :
    SameByKind (texts.map ofText) others where
  explicit := explicit
  intervals := by
    rw [← intervals, List.forall₂_same]
    intro entry member
    obtain ⟨part, isPart, found⟩ := List.mem_filterMap.1 member
    obtain ⟨text, -, read⟩ := List.mem_map.1 isPart
    rw [exists_interval_of_interval? found] at read
    exact ⟨Interval.same_self (bounded_of_ofText read), rfl⟩
  plain := plain

end Part

/-! ## The fields of a set -/

namespace VariantSet

open PluralTemplate.Part (SameEntry SameByKind)

section

variable {parts others : List Part} (kinds : SameByKind parts others) (whole otherWhole : String)

/-- Only explicit parts list values. -/
theorem filter_lists_filter_isExplicit (value : String) (parts : List Part) :
    (parts.filter Part.isExplicit).filter (Part.lists value) = parts.filter (Part.lists value) := by
  rw [List.filter_filter]
  refine List.filter_congr fun part _ => ?_
  cases part with
  | explicit values template => rw [Part.isExplicit, Bool.and_true]
  | interval _ _ => rfl
  | plain _ => rfl

theorem intervals_foldl_add_eq (parts : List Part) (set : VariantSet) :
    (parts.foldl add set).intervals = set.intervals ++ parts.filterMap Part.interval? := by
  induction parts generalizing set with
  | nil => exact (List.append_nil _).symm
  | cons part rest ih =>
    rw [List.foldl_cons, ih]
    cases part with
    | explicit values template => rw [List.filterMap_cons_none rfl, add]
    | plain template => rw [List.filterMap_cons_none rfl, add]
    | interval rule template =>
      exact List.append_assoc set.intervals [(rule, template)] (rest.filterMap Part.interval?)

theorem intervals_ofParts (whole : String) (parts : List Part) :
    (ofParts whole parts).intervals = parts.filterMap Part.interval? := by
  rw [ofParts, intervals_foldl_add_eq]
  rfl

theorem default_ofParts (whole : String) (parts : List Part) :
    (ofParts whole parts).default = (parts.head?.map Part.template).getD whole := by
  rw [ofParts, default_foldl_add]
  rfl

include kinds

theorem explicit_ofParts_congr :
    (ofParts whole parts).explicit = (ofParts otherWhole others).explicit := by
  apply Dictionary.eq_of_get?
  intro value
  rw [ofParts, ofParts, explicit_foldl_add, explicit_foldl_add,
    ← filter_lists_filter_isExplicit value parts, kinds.explicit, filter_lists_filter_isExplicit]
  rfl

theorem ordinals_ofParts_congr :
    (ofParts whole parts).ordinals = (ofParts otherWhole others).ordinals := by
  rw [ofParts, ofParts, ordinals_foldl_add, ordinals_foldl_add, kinds.plain]
  rfl

theorem intervals_ofParts_congr :
    List.Forall₂ SameEntry (ofParts whole parts).intervals
      (ofParts otherWhole others).intervals := by
  rw [intervals_ofParts, intervals_ofParts]
  exact kinds.intervals

end

/-! ## Sets that differ in their defaults -/

/-- Two sets agree on everything but the default. -/
structure SameButDefault (set other : VariantSet) : Prop where
  explicit : set.explicit = other.explicit
  intervals : List.Forall₂ SameEntry set.intervals other.intervals
  ordinals : set.ordinals = other.ordinals

theorem sameButDefault_ofParts {parts others : List Part} (kinds : SameByKind parts others)
    (whole otherWhole : String) :
    SameButDefault (ofParts whole parts) (ofParts otherWhole others) where
  explicit := explicit_ofParts_congr kinds whole otherWhole
  intervals := intervals_ofParts_congr kinds whole otherWhole
  ordinals := ordinals_ofParts_congr kinds whole otherWhole

/-- Something other than the default is there for a quantity whose category has a place. -/
def Offers (set : VariantSet) (q : Quantity) (place : Nat) : Prop :=
  (∃ template, set.explicit.get? q.canonical = some template) ∨
  (∃ entry ∈ set.intervals, entry.1.contains q.value = true) ∨
  place < set.ordinals.length

/-- What is there for a quantity before the default. -/
def offer? (set : VariantSet) (q : Quantity) (place : Nat) : Option String :=
  ((set.explicit.get? q.canonical).or
    ((set.intervals.find? fun entry => entry.1.contains q.value).map Prod.snd)).or
      set.ordinals[place]?

theorem isSome_offer?_iff {set : VariantSet} {q : Quantity} {place : Nat} :
    (set.offer? q place).isSome = true ↔ set.Offers q place := by
  rw [offer?, Option.isSome_or, Option.isSome_or, Bool.or_eq_true, Bool.or_eq_true,
    Option.isSome_map, List.find?_isSome, Option.isSome_iff_exists, or_assoc]
  exact or_congr_right (or_congr_right (by simp))

/-- The same interval is the first one with a number in it. -/
theorem find?_congr {entries others : List (Interval × String)}
    (same : List.Forall₂ SameEntry entries others) (x : Binary64) :
    (entries.find? fun entry => entry.1.contains x).map Prod.snd =
      (others.find? fun entry => entry.1.contains x).map Prod.snd := by
  induction same with
  | nil => rfl
  | @cons entry other rest otherRest here _ ih =>
    rw [List.find?_cons, List.find?_cons, Interval.contains_of_same here.1]
    cases other.1.contains x with
    | true => exact congrArg some here.2
    | false => exact ih

namespace SameButDefault

variable {set other : VariantSet} (agree : SameButDefault set other)

include agree

theorem offer?_eq (q : Quantity) (place : Nat) : set.offer? q place = other.offer? q place := by
  rw [offer?, offer?, agree.explicit, agree.ordinals, find?_congr agree.intervals]

/-- Such sets select alike where something other than the default is there, and their defaults
where nothing is. -/
theorem select_cases (q : Quantity) (locale : String) (registry : Registry) :
    (set.Offers q (registry.categoryIndex locale q) →
      set.select q locale registry = other.select q locale registry) ∧
    (¬ set.Offers q (registry.categoryIndex locale q) →
      set.select q locale registry = set.default ∧
        other.select q locale registry = other.default) := by
  have selects : ∀ any : VariantSet, any.select q locale registry =
      (any.offer? q (registry.categoryIndex locale q)).getD any.default := fun any =>
    any.select_eq_getD q locale registry
  rw [selects, selects, ← agree.offer?_eq, ← isSome_offer?_iff]
  cases set.offer? q (registry.categoryIndex locale q) with
  | none => simp
  | some template => simp

/-- They are the same if their defaults are. -/
theorem same_iff : set.same other = true ↔ set.default = other.default := by
  obtain ⟨lengths, pairs⟩ := List.forall₂_iff_zip.1 agree.intervals
  have equal : ∀ entries ∈ set.intervals.zip other.intervals,
      (entries.1.1.same entries.2.1 && entries.1.2 == entries.2.2) = true := by
    rintro ⟨x, y⟩ member
    obtain ⟨rules, texts⟩ := pairs member
    simp only [rules, texts, beq_self_eq_true, Bool.and_self]
  have all := List.all_eq_true.2 equal
  simp only [same, agree.explicit, lengths, agree.ordinals, beq_self_eq_true, Bool.true_and,
    Bool.and_true, Bool.and_eq_true, beq_iff_eq]
  exact and_iff_right all

theorem eq_iff (identical : set.intervals = other.intervals) :
    set = other ↔ set.default = other.default := by
  refine ⟨congrArg VariantSet.default, fun defaults => ?_⟩
  obtain ⟨explicit, intervals, ordinals, default⟩ := set
  obtain rfl := agree.explicit
  obtain rfl := agree.ordinals
  obtain rfl := identical
  obtain rfl := defaults
  rfl

end SameButDefault

theorem parts_ne_nil (template delimiter : String) : parts template delimiter ≠ [] := by
  simp only [parts, Text.split, ne_eq, List.map_eq_nil_iff]
  exact Text.pieces_ne_nil _ _

/-- The default of a template is the text of its first part. -/
theorem some_default_ofTemplate (template delimiter : String) :
    some (ofTemplate template delimiter).default =
      (parts template delimiter).head?.map Part.template := by
  obtain ⟨first, rest, split⟩ := List.exists_cons_of_ne_nil (parts_ne_nil template delimiter)
  rw [ofTemplate, default_ofParts, split]
  rfl

/-- Take two templates, each with its delimiter, that have the same explicit parts, the same
intervals and the same plain parts, each in the same order. Their sets agree on the values that are
bound, the intervals and the plain variants, and are the same if the texts of their first parts are.
Where the intervals are identical, and not equal as numbers only, the sets are then identical too.
What is selected for a quantity is the same, unless nothing but the default is there for it; then
each set gives its own. -/
theorem interleaving_reaches_default_only {template delimiter otherTemplate otherDelimiter : String}
    (kinds : SameByKind (parts template delimiter) (parts otherTemplate otherDelimiter)) :
    let set := ofTemplate template delimiter
    let other := ofTemplate otherTemplate otherDelimiter
    let firstText := (parts template delimiter).head?.map Part.template
    let otherFirstText := (parts otherTemplate otherDelimiter).head?.map Part.template
    SameButDefault set other ∧
    (set.same other = true ↔ firstText = otherFirstText) ∧
    (set.intervals = other.intervals → (set = other ↔ firstText = otherFirstText)) ∧
    ∀ (q : Quantity) (locale : String) (registry : Registry),
      (set.Offers q (registry.categoryIndex locale q) →
        set.select q locale registry = other.select q locale registry) ∧
      (¬ set.Offers q (registry.categoryIndex locale q) →
        some (set.select q locale registry) = firstText ∧
        some (other.select q locale registry) = otherFirstText) := by
  intro set other firstText otherFirstText
  have agree : SameButDefault set other := sameButDefault_ofParts kinds template otherTemplate
  have first : some set.default = firstText := some_default_ofTemplate template delimiter
  have otherFirst : some other.default = otherFirstText :=
    some_default_ofTemplate otherTemplate otherDelimiter
  have texts : set.default = other.default ↔ firstText = otherFirstText := by
    rw [← first, ← otherFirst, Option.some_inj]
  refine ⟨agree, agree.same_iff.trans texts, fun identical => (agree.eq_iff identical).trans texts,
    fun q locale registry => ?_⟩
  obtain ⟨offered, left⟩ := agree.select_cases q locale registry
  refine ⟨offered, fun none => ?_⟩
  obtain ⟨selected, otherSelected⟩ := left none
  rw [selected, otherSelected]
  exact ⟨first, otherFirst⟩

/-- Two intervals and a listed value, cut at different delimiters and begun with different parts:
what is listed or contained is selected alike, and eleven, which is neither, tells the two apart. -/
theorem interleaving_reaches_default_only_eleven :
    let set := ofTemplate "[-Inf,10[to-10|\x7b10\x7dmap-ten|]11,50[from-11" "|"
    let other := ofTemplate "\x7b10\x7dmap-ten;[-Inf,10[to-10;]11,50[from-11" ";"
    set.same other = false ∧
    (∀ (locale : String) (registry : Registry),
      set.select (.integer 12) locale registry = other.select (.integer 12) locale registry) ∧
    ∀ (locale : String) (registry : Registry),
      set.select (.integer 11) locale registry = "to-10" ∧
      other.select (.integer 11) locale registry = "map-ten" := by
  intro set other
  let toTen : Part := .interval ⟨.signed true .infinity, .ofInt 10, true, false⟩ "to-10"
  let ten : Part := .explicit ["10"] "map-ten"
  let fromEleven : Part := .interval ⟨.ofInt 11, .ofInt 50, false, false⟩ "from-11"
  have read : parts "[-Inf,10[to-10|\x7b10\x7dmap-ten|]11,50[from-11" "|" =
      [toTen, ten, fromEleven] := by decide +kernel
  have otherRead : parts "\x7b10\x7dmap-ten;[-Inf,10[to-10;]11,50[from-11" ";" =
      [ten, toTen, fromEleven] := by decide +kernel
  have held : set = ofParts _ [toTen, ten, fromEleven] := congrArg (ofParts _) read
  have kinds : SameByKind (parts "[-Inf,10[to-10|\x7b10\x7dmap-ten|]11,50[from-11" "|")
      (parts "\x7b10\x7dmap-ten;[-Inf,10[to-10;]11,50[from-11" ";") := by
    apply SameByKind.of_eq
    · exact (congrArg (List.filter Part.isExplicit) read).trans (by rw [otherRead]; rfl)
    · exact (congrArg (List.filterMap Part.interval?) read).trans (by rw [otherRead]; rfl)
    · exact (congrArg (List.filter Part.isPlain) read).trans (by rw [otherRead]; rfl)
  obtain ⟨agree, same, -, selects⟩ := interleaving_reaches_default_only kinds
  rw [read, otherRead] at same selects
  refine ⟨?_, fun locale registry => ?_, fun locale registry => ?_⟩
  · rw [Bool.eq_false_iff]
    intro equal
    have texts : some "to-10" = some "map-ten" := same.1 equal
    revert texts
    decide
  · have contained : ∃ entry ∈ set.intervals,
        entry.1.contains (Quantity.integer 12).value = true := by
      rw [held]
      decide +kernel
    exact (selects _ locale registry).1 (.inr (.inl contained))
  · have nothing : ¬ set.Offers (.integer 11) (registry.categoryIndex locale (.integer 11)) := by
      rw [held]
      rintro (⟨template, listed⟩ | inside | plain)
      · revert listed
        exact nofun
      · revert inside
        decide +kernel
      · exact Nat.not_lt_zero _ plain
    obtain ⟨selected, otherSelected⟩ := (selects _ locale registry).2 nothing
    exact ⟨Option.some.inj selected, Option.some.inj otherSelected⟩

end VariantSet

end PluralTemplate
