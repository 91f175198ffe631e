import PluralTemplate.Proofs.Resolver.Substitutions

/-!
# Affixes of tokens

A token begins with the opening affix and ends with the closing one, and is its own token
(`wrap_wrap`). An affix that the name carries already is not added, and each of the two is looked
for on its own, so in a name that carries both they may share characters. Such a name is shorter
than the two together (`Overlaps`), and the token of any other name is the two with a text between
them (`exists_middle_iff`).

An affix alone is a token only if it carries the other affix as well and is itself a name that a
filter gives a parameter (`wrap_carries_affixes`).
-/

set_option autoImplicit false

namespace PluralTemplate

/-- A text that begins and ends with texts it has room for is these two with a rest between. -/
theorem exists_middle {α : Type} {front back text : List α} (begins : front <+: text)
    (ends : back <:+ text) (room : front.length + back.length ≤ text.length) :
    ∃ middle, text = front ++ middle ++ back := by
  obtain ⟨rest, rfl⟩ := begins
  rw [List.length_append] at room
  obtain ⟨middle, rfl⟩ : back <:+ rest :=
    List.suffix_of_suffix_length_le ends (List.suffix_append front rest) (by omega)
  exact ⟨middle, (List.append_assoc front middle back).symm⟩

namespace Resolver

variable {r : Resolver} {parameters : Parameters} {name token : String}

/-! ## What a token begins and ends with -/

theorem toList_wrap_eq (r : Resolver) (name : String) :
    (r.wrap name).toList =
      (if r.opening.toList <+: name.toList then [] else r.opening.toList) ++ name.toList ++
        (if r.closing.toList <:+ name.toList then [] else r.closing.toList) := by
  unfold wrap
  simp only [← List.isPrefixOf_iff_prefix, ← List.isSuffixOf_iff_suffix, String.toList_append]
  split <;> split <;> rfl

theorem opening_prefix_wrap (r : Resolver) (name : String) :
    r.opening.toList <+: (r.wrap name).toList := by
  rw [toList_wrap_eq, List.append_assoc]
  by_cases begins : r.opening.toList <+: name.toList
  · rw [if_pos begins, List.nil_append]
    exact begins.trans (List.prefix_append _ _)
  · rw [if_neg begins]
    exact List.prefix_append _ _

theorem closing_suffix_wrap (r : Resolver) (name : String) :
    r.closing.toList <:+ (r.wrap name).toList := by
  rw [toList_wrap_eq]
  by_cases ends : r.closing.toList <:+ name.toList
  · rw [if_pos ends, List.append_nil]
    exact ends.trans (List.suffix_append _ _)
  · rw [if_neg ends]
    exact List.suffix_append _ _

/-- Nothing is added to a name that carries both affixes. -/
theorem wrap_of_affixed (begins : r.opening.toList <+: name.toList)
    (ends : r.closing.toList <:+ name.toList) : r.wrap name = name := by
  apply String.toList_injective
  rw [toList_wrap_eq, if_pos begins, if_pos ends, List.nil_append, List.append_nil]

theorem wrap_wrap (r : Resolver) (name : String) : r.wrap (r.wrap name) = r.wrap name :=
  wrap_of_affixed (r.opening_prefix_wrap name) (r.closing_suffix_wrap name)

/-! ## Affixes that share characters -/

/-- A name that carries both affixes, and is shorter than the two together. -/
structure Overlaps (r : Resolver) (name : String) : Prop where
  begins : r.opening.toList <+: name.toList
  ends : r.closing.toList <:+ name.toList
  short : name.toList.length < r.opening.toList.length + r.closing.toList.length

theorem length_le_of_not_overlaps (apart : ¬ r.Overlaps name) :
    r.opening.toList.length + r.closing.toList.length ≤ (r.wrap name).toList.length := by
  rw [toList_wrap_eq]
  by_cases begins : r.opening.toList <+: name.toList
  · by_cases ends : r.closing.toList <:+ name.toList
    · rw [if_pos begins, if_pos ends, List.nil_append, List.append_nil]
      exact Nat.le_of_not_lt fun short => apart ⟨begins, ends, short⟩
    · have front := begins.length_le
      simp only [if_pos begins, if_neg ends, List.length_append, List.length_nil]
      omega
  · by_cases ends : r.closing.toList <:+ name.toList
    · have back := ends.length_le
      simp only [if_neg begins, if_pos ends, List.length_append, List.length_nil]
      omega
    · simp only [if_neg begins, if_neg ends, List.length_append]
      omega

theorem exists_middle_iff (r : Resolver) (name : String) :
    (∃ middle, r.wrap name = r.opening ++ middle ++ r.closing) ↔ ¬ r.Overlaps name := by
  constructor
  · rintro ⟨middle, affixed⟩ overlaps
    have short := overlaps.short
    rw [wrap_of_affixed overlaps.begins overlaps.ends] at affixed
    simp only [affixed, String.toList_append, List.length_append] at short
    omega
  · intro apart
    obtain ⟨middle, affixed⟩ := exists_middle (r.opening_prefix_wrap name)
      (r.closing_suffix_wrap name) (length_le_of_not_overlaps apart)
    refine ⟨String.ofList middle, String.toList_injective ?_⟩
    rw [affixed, String.toList_append, String.toList_append, String.toList_ofList]

/-! ## An affix as a token -/

/-- Something that is longer by a name is not the affix itself, so the name carries it. -/
theorem wrap_eq_opening_iff (nonempty : name ≠ "") :
    r.wrap name = r.opening ↔ name = r.opening ∧ r.closing.toList <:+ r.opening.toList := by
  constructor
  · intro wrapped
    have ends := r.closing_suffix_wrap name
    have length := congrArg (fun text => text.toList.length) wrapped
    have some := List.length_pos_iff.2 (mt String.toList_eq_nil_iff.1 nonempty)
    rw [wrapped] at ends
    simp only [toList_wrap_eq, List.length_append] at length
    by_cases begins : r.opening.toList <+: name.toList
    · refine ⟨String.toList_injective (begins.eq_of_length_le ?_).symm, ends⟩
      omega
    · rw [if_neg begins] at length
      omega
  · rintro ⟨rfl, ends⟩
    exact wrap_of_affixed (List.prefix_refl _) ends

theorem wrap_eq_closing_iff (nonempty : name ≠ "") :
    r.wrap name = r.closing ↔ name = r.closing ∧ r.opening.toList <+: r.closing.toList := by
  constructor
  · intro wrapped
    have begins := r.opening_prefix_wrap name
    have length := congrArg (fun text => text.toList.length) wrapped
    have some := List.length_pos_iff.2 (mt String.toList_eq_nil_iff.1 nonempty)
    rw [wrapped] at begins
    simp only [toList_wrap_eq, List.length_append] at length
    by_cases ends : r.closing.toList <:+ name.toList
    · refine ⟨String.toList_injective (ends.eq_of_length_le ?_).symm, begins⟩
      omega
    · rw [if_neg ends] at length
      omega
  · rintro ⟨rfl, begins⟩
    exact wrap_of_affixed begins (List.suffix_refl _)

/-- A name that some filter gives one of the parameters, and that has a token. -/
structure Names (r : Resolver) (parameters : Parameters) (name : String) : Prop where
  nonempty : name ≠ ""
  given : ∃ key value, parameters.get? key = some value ∧ ∃ filter ∈ r.filters, filter key = name

/-- The tokens are the wrapped names. -/
theorem contains_substitutions_iff :
    (r.substitutions parameters).contains token = true ↔
      ∃ name, r.Names parameters name ∧ r.wrap name = token := by
  rw [Dictionary.contains, ← Option.ne_none_iff_isSome, ne_eq, get?_substitutions_eq_none_iff,
    not_not]
  constructor
  · rintro ⟨p, makes⟩
    refine ⟨p.filter p.name, ⟨makes.nonempty, p.name, p.value, makes.bound, p.filter, ?_, rfl⟩,
      makes.wrapped⟩
    exact List.mem_of_getElem? makes.chained
  · rintro ⟨_, ⟨nonempty, key, value, bound, filter, chained, rfl⟩, wrapped⟩
    obtain ⟨place, inChain⟩ := List.mem_iff_getElem?.1 chained
    exact ⟨⟨key, value, place, filter⟩, bound, inChain, nonempty, wrapped⟩

/-- An affix is a token if it is a name and its own token. -/
theorem contains_substitutions_affix_iff {affix : String} {carried : Prop}
    (own : ∀ name, name ≠ "" → (r.wrap name = affix ↔ name = affix ∧ carried)) :
    (r.substitutions parameters).contains affix = true ↔ r.Names parameters affix ∧ carried := by
  rw [contains_substitutions_iff]
  constructor
  · rintro ⟨name, names, wrapped⟩
    obtain ⟨rfl, carries⟩ := (own name names.nonempty).1 wrapped
    exact ⟨names, carries⟩
  · rintro ⟨names, carries⟩
    exact ⟨affix, names, (own affix names.nonempty).2 ⟨rfl, carries⟩⟩

/-- Every token begins with the opening affix, ends with the closing one and is its own token. It
is the two with a text between, unless the name carries both and is shorter than the two together.
An affix alone is a token of parameters just when it is one of their names and carries the other
affix as well. -/
theorem wrap_carries_affixes (r : Resolver) :
    (∀ name, r.opening.toList <+: (r.wrap name).toList ∧
      r.closing.toList <:+ (r.wrap name).toList ∧ r.wrap (r.wrap name) = r.wrap name ∧
      ((∃ middle, r.wrap name = r.opening ++ middle ++ r.closing) ↔ ¬ r.Overlaps name)) ∧
    ∀ parameters,
      ((r.substitutions parameters).contains r.opening = true ↔
        r.Names parameters r.opening ∧ r.closing.toList <:+ r.opening.toList) ∧
      ((r.substitutions parameters).contains r.closing = true ↔
        r.Names parameters r.closing ∧ r.opening.toList <+: r.closing.toList) :=
  ⟨fun name => ⟨r.opening_prefix_wrap name, r.closing_suffix_wrap name, r.wrap_wrap name,
      r.exists_middle_iff name⟩,
    fun _ => ⟨contains_substitutions_affix_iff fun _ => wrap_eq_opening_iff,
      contains_substitutions_affix_iff fun _ => wrap_eq_closing_iff⟩⟩

/-- Between two equal affixes there is no room in a name that is the affix itself. Its token is the
affix alone, and is replaced wherever it stands. -/
theorem wrap_name_equal_to_affixes :
    let r := ofAffixes "%" "%" none
    (¬ ∃ middle, r.wrap "%" = r.opening ++ middle ++ r.closing) ∧
      (r.substitutions (.ofList [("%", .text "A")])).contains r.opening = true ∧
      (r.resolve "100%" (.ofList [("%", .text "A")]) "en").1 = "100A" := by
  intro r
  refine ⟨?_, by decide +kernel, by decide +kernel⟩
  rw [exists_middle_iff, not_not]
  exact ⟨by decide, by decide, by decide⟩

end Resolver

end PluralTemplate
