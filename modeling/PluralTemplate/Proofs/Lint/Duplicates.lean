import PluralTemplate.Proofs.Lint.Positions
import PluralTemplate.Proofs.Part.Listing

/-!
# Values that are bound again

While the parts are looked at, each value is bound to the index of the last part that lists it
(`get?_ofPart`). So a value of a part is warned about if an earlier part lists it, and then the last
of these is named (`duplicate_mem_ofParts_iff`); but the bindings are updated value by value, and a
part that lists a value twice is warned about as well, with itself for the earlier part
(`duplicate_reported_iff`).
-/

set_option autoImplicit false

namespace PluralTemplate

namespace Part

/-- The index of the last part that lists a value, where the first part has the given index. -/
def lastListing? (value : String) : Nat → List Part → Option Nat
  | _, [] => none
  | index, part :: rest =>
    (lastListing? value (index + 1) rest).or (if part.lists value then some index else none)

theorem lastListing?_eq_none_iff {value : String} {index : Nat} {parts : List Part} :
    lastListing? value index parts = none ↔ ∀ part ∈ parts, part.lists value = false := by
  induction parts generalizing index with
  | nil => simp [lastListing?]
  | cons part rest ih => simp [lastListing?, ih, and_comm]

/-- The part at the index lists the value, and no later one does. -/
theorem lastListing?_eq_some_iff {value : String} {index found : Nat} {parts : List Part} :
    lastListing? value index parts = some found ↔
      ∃ place part, found = index + place ∧ parts[place]? = some part ∧ part.lists value = true ∧
        ∀ later other, place < later → parts[later]? = some other → other.lists value = false := by
  induction parts generalizing index with
  | nil => simp [lastListing?]
  | cons part rest ih =>
    rw [lastListing?, Option.or_eq_some_iff, ih, lastListing?_eq_none_iff]
    constructor
    · rintro (⟨place, other, rfl, here, listed, last⟩ | ⟨none, here⟩)
      · refine ⟨place + 1, other, by omega, here, listed, fun later behind more there => ?_⟩
        cases later with
        | zero => omega
        | succ later => exact last later behind (by omega) there
      · split at here
        · rename_i listed
          refine ⟨0, part, by simpa using here.symm, rfl, listed, fun later behind more there => ?_⟩
          cases later with
          | zero => omega
          | succ later => exact none behind (List.mem_of_getElem? there)
        · cases here
    · rintro ⟨place, other, rfl, here, listed, last⟩
      cases place with
      | zero =>
        obtain rfl : part = other := by simpa using here
        refine .inr ⟨fun behind member => ?_, by simp [listed]⟩
        obtain ⟨later, there⟩ := List.mem_iff_getElem?.1 member
        exact last (later + 1) behind (by omega) there
      | succ place =>
        refine .inl ⟨place, other, by omega, here, listed, fun later behind more there => ?_⟩
        exact last (later + 1) behind (by omega) there

end Part

namespace Lint

open Text (byteCount)

variable {index offset gap previous start place : Nat} {bound : Dictionary Nat} {value : String}

/-! ## One part -/

theorem rebind_cons_snd (index offset : Nat) (bound : Dictionary Nat) (value : String)
    (rest : List String) :
    (rebind index offset bound (value :: rest)).2 =
      (rebind index offset (bound.insert value index) rest).2 := by
  rw [rebind]
  cases bound.get? value <;> rfl

/-- The values of a part are bound to its index. -/
theorem get?_rebind (values : List String) (key : String) :
    (rebind index offset bound values).2.get? key =
      if key ∈ values then some index else bound.get? key := by
  induction values generalizing bound with
  | nil => simp [rebind]
  | cons first rest ih =>
    rw [rebind_cons_snd, ih, Dictionary.get?_insert]
    by_cases later : key ∈ rest <;> simp [later]

/-- A value is warned about with what it was bound to before the part, and with the part itself if
it is listed again. -/
theorem duplicate_mem_rebind_iff (values : List String) :
    Warning.duplicateExplicitValue place start previous value ∈
        (rebind index offset bound values).1 ↔
      place = index ∧ start = offset ∧
        (value ∈ values ∧ bound.get? value = some previous ∨
          previous = index ∧ 2 ≤ values.count value) := by
  induction values generalizing bound with
  | nil => simp [rebind]
  | cons first rest ih =>
    have head : Warning.duplicateExplicitValue place start previous value ∈
        ((bound.get? first).map (.duplicateExplicitValue index offset · first)).toList ↔
          place = index ∧ start = offset ∧ value = first ∧ bound.get? value = some previous := by
      simp only [Option.mem_toList, Option.map_eq_some_iff, Warning.duplicateExplicitValue.injEq]
      constructor
      · rintro ⟨_, found, rfl, rfl, rfl, rfl⟩
        exact ⟨rfl, rfl, rfl, found⟩
      · rintro ⟨rfl, rfl, rfl, found⟩
        exact ⟨_, found, rfl, rfl, rfl, rfl⟩
    rw [rebind_cons, List.mem_append, head, ih, Dictionary.get?_insert, ← and_or_left,
      ← and_or_left]
    by_cases same : value = first
    · -- Behind its first place in the list the value is bound to the part itself.
      subst same
      have more : value ∈ rest ↔ 1 ≤ rest.count value := List.count_pos_iff.symm
      rw [List.count_cons_self, List.mem_cons, more]
      simp only [if_true, true_and, true_or, Option.some.injEq]
      grind
    · simp [same, Ne.symm same]

theorem duplicate_mem_ofPart_iff {text : String} :
    Warning.duplicateExplicitValue place start previous value ∈
        (ofPart index offset bound text).1 ↔
      place = index ∧ start = offset ∧
        (value ∈ (Part.ofText text).values ∧ bound.get? value = some previous ∨
          previous = index ∧ 2 ≤ (Part.ofText text).values.count value) := by
  unfold ofPart
  cases Part.ofText text with
  | explicit values template => exact duplicate_mem_rebind_iff values
  | interval rule template =>
    dsimp only
    split <;> simp [Part.values]
  | plain template =>
    dsimp only
    split <;> simp [Part.values]

/-- Behind a part, its values are bound to its index and all others as before. -/
theorem get?_ofPart (text key : String) :
    (ofPart index offset bound text).2.get? key =
      if (Part.ofText text).lists key then some index else bound.get? key := by
  unfold ofPart
  cases Part.ofText text with
  | explicit values template =>
    dsimp only
    rw [get?_rebind]
    simp [Part.lists]
  | interval rule template => rfl
  | plain template => rfl

/-! ## A list of parts -/

/-- A part is warned about with the last part in front of it that lists the value, and with itself
if it lists the value twice. -/
theorem duplicate_mem_ofParts_iff (texts : List String) (place : Nat) :
    (∃ start, Warning.duplicateExplicitValue (index + place) start previous value ∈
        ofParts gap index offset bound texts) ↔
      ∃ text, texts[place]? = some text ∧
        (value ∈ (Part.ofText text).values ∧
            (Part.lastListing? value index ((texts.take place).map Part.ofText)).or
              (bound.get? value) = some previous ∨
          previous = index + place ∧ 2 ≤ (Part.ofText text).values.count value) := by
  induction texts generalizing index offset bound place with
  | nil => simp [ofParts]
  | cons text rest ih =>
    cases place with
    | zero =>
      refine (exists_congr fun start => mem_ofParts_cons_iff_of_eq rfl).trans ?_
      simp [duplicate_mem_ofPart_iff, Part.lastListing?, Warning.index]
    | succ place =>
      have behind : index < index + (place + 1) := by omega
      have later : index + (place + 1) = index + 1 + place := by omega
      have held : ((if (Part.ofText text).lists value then some index else none).or
          (bound.get? value)) = (ofPart index offset bound text).2.get? value := by
        rw [get?_ofPart]
        split <;> rfl
      refine (exists_congr fun start => mem_ofParts_cons_iff_of_lt behind).trans ?_
      simp only [List.getElem?_cons_succ, List.take_succ_cons, List.map_cons, Part.lastListing?,
        Option.or_assoc, held]
      rw [later]
      exact ih place

/-! ## Templates -/

open Grammar (Lists ListsTwice)

variable {template delimiter : String}

/-- The part at the index is warned about with an earlier binding of the value. -/
def Reported (template delimiter : String) (index previous : Nat) (value : String) : Prop :=
  ∃ offset, Warning.duplicateExplicitValue index offset previous value ∈
    ofTemplate template delimiter

/-- The last part in front of an index that lists a value. -/
theorem lastListing?_take_iff {texts : List String} :
    Part.lastListing? value 0 ((texts.take index).map Part.ofText) = some previous ↔
      previous < index ∧ (∃ earlier, texts[previous]? = some earlier ∧ Lists earlier value) ∧
        ∀ between other, previous < between → between < index →
          texts[between]? = some other → ¬ Lists other value := by
  simp only [Part.lastListing?_eq_some_iff, List.getElem?_map, List.getElem?_take, Nat.zero_add,
    ← Grammar.mem_values_iff]
  constructor
  · rintro ⟨place, part, rfl, here, listed, last⟩
    split at here
    · rename_i front
      obtain ⟨text, atPlace, rfl⟩ := Option.map_eq_some_iff.1 here
      refine ⟨front, ⟨text, atPlace, Part.lists_iff.1 listed⟩, ?_⟩
      intro between other behind more there
      apply Part.not_lists_iff.1
      exact last between _ behind (by simp [more, there])
    · cases here
  · rintro ⟨front, ⟨text, here, listed⟩, last⟩
    refine ⟨previous, Part.ofText text, rfl, by simp [front, here], Part.lists_iff.2 listed, ?_⟩
    intro between part behind there
    split at there
    · rename_i more
      obtain ⟨other, atPlace, rfl⟩ := Option.map_eq_some_iff.1 there
      exact Part.not_lists_iff.2 (last between other behind more atPlace)
    · cases there

theorem reported_iff :
    Reported template delimiter index previous value ↔
      ∃ text, (Text.split delimiter template)[index]? = some text ∧
        (previous < index ∧ Lists text value ∧
            (∃ earlier, (Text.split delimiter template)[previous]? = some earlier ∧
              Lists earlier value) ∧
            (∀ between other, previous < between → between < index →
              (Text.split delimiter template)[between]? = some other → ¬ Lists other value) ∨
          previous = index ∧ ListsTwice text value) := by
  have reported : (∃ start, Warning.duplicateExplicitValue (0 + index) start previous value ∈
      ofParts (byteCount delimiter.toList) 0 0 .empty (Text.split delimiter template)) ↔ _ :=
    duplicate_mem_ofParts_iff (Text.split delimiter template) index
  rw [Nat.zero_add] at reported
  unfold Reported ofTemplate
  rw [reported]
  simp only [Dictionary.get?_empty, Option.or_none, lastListing?_take_iff,
    Grammar.mem_values_iff, Grammar.two_le_count_values_iff]
  grind

/-- Where a value is listed again, the next part that does so is warned about. -/
theorem exists_reported_of_later {later : Nat} {text other : String}
    (here : (Text.split delimiter template)[index]? = some text) (listed : Lists text value)
    (behind : index < later) (there : (Text.split delimiter template)[later]? = some other)
    (again : Lists other value) :
    ∃ next, index < next ∧ Reported template delimiter next index value := by
  classical
  have some : ∃ next, index < next ∧ ∃ text, (Text.split delimiter template)[next]? = some text ∧
      Lists text value := ⟨later, behind, other, there, again⟩
  obtain ⟨more, first, atNext, lists⟩ := Nat.find_spec some
  refine ⟨Nat.find some, more, reported_iff.2 ⟨first, atNext, .inl ⟨more, lists, ?_, ?_⟩⟩⟩
  · exact ⟨text, here, listed⟩
  · intro between skipped after before atBetween listsToo
    exact Nat.find_min some before ⟨after, skipped, atBetween, listsToo⟩

/-- Around the part at an index. -/
theorem map_ofText_eq {texts : List String} {text : String} (here : texts[index]? = some text) :
    texts.map Part.ofText = (texts.take index).map Part.ofText ++
      Part.ofText text :: (texts.drop (index + 1)).map Part.ofText := by
  obtain ⟨within, rfl⟩ := List.getElem?_eq_some_iff.1 here
  rw [← List.map_cons, ← List.drop_eq_getElem_cons within, ← List.map_append,
    List.take_append_drop]

/-- Where no later part is warned about, no later part lists a value of the part at an index. -/
theorem not_lists_behind {text : String}
    (here : (Text.split delimiter template)[index]? = some text) (listed : Lists text value)
    (last : ¬ ∃ next, index < next ∧ Reported template delimiter next index value) :
    ∀ later ∈ ((Text.split delimiter template).drop (index + 1)).map Part.ofText,
      later.lists value = false := by
  intro part member
  obtain ⟨other, behind, rfl⟩ := List.mem_map.1 member
  obtain ⟨after, there⟩ := List.mem_iff_getElem?.1 behind
  rw [List.getElem?_drop] at there
  apply Part.not_lists_iff.2
  intro again
  apply last
  exact exists_reported_of_later here listed (by omega) there (Grammar.mem_values_iff.1 again)

/-- A value has the text of the last part that lists it. -/
theorem get?_explicit_of_unreported {text t : String} {r : Grammar.ListRule}
    (here : (Text.split delimiter template)[index]? = some text) (heads : r.Heads text t)
    (listed : Lists text value)
    (last : ¬ ∃ next, index < next ∧ Reported template delimiter next index value) :
    (VariantSet.ofTemplate template delimiter).explicit.get? value = some t := by
  unfold VariantSet.ofTemplate VariantSet.parts
  rw [map_ofText_eq here, VariantSet.get?_explicit_of_last _ _ (not_lists_behind here listed last),
    heads.ofText_eq]
  · rfl
  · exact Part.lists_iff.2 (Grammar.mem_values_iff.2 listed)

/-- A value is warned about with the last earlier part that lists it, and a part that lists it twice
with itself. The text of the part is what the value is bound to, or a later part is warned about
with that part. So warnings relate two parts as long as no part lists a value twice. -/
theorem duplicate_reported_iff (template delimiter : String) :
    let texts := Text.split delimiter template
    (∀ index previous value, Reported template delimiter index previous value ↔
      ∃ text, texts[index]? = some text ∧
        (previous < index ∧ Lists text value ∧
            (∃ earlier, texts[previous]? = some earlier ∧ Lists earlier value) ∧
            (∀ between other, previous < between → between < index →
              texts[between]? = some other → ¬ Lists other value) ∨
          previous = index ∧ ListsTwice text value)) ∧
    (∀ index previous value, Reported template delimiter index previous value →
      ∃ (text : String) (r : Grammar.ListRule) (t : String),
        texts[index]? = some text ∧ r.Heads text t ∧
        ((VariantSet.ofTemplate template delimiter).explicit.get? value = some t ∨
          ∃ next, index < next ∧ Reported template delimiter next index value)) ∧
    ((∀ index previous value, Reported template delimiter index previous value →
        previous < index) ↔
      ∀ text ∈ texts, ∀ value, ¬ ListsTwice text value) := by
  intro texts
  refine ⟨fun index previous value => reported_iff, fun index previous value reported => ?_, ?_⟩
  · obtain ⟨text, here, listing⟩ := reported_iff.1 reported
    have listed : Lists text value := by
      rcases listing with ⟨-, listed, -⟩ | ⟨-, twice⟩
      · exact listed
      · exact twice.lists
    have ⟨r, t, heads, _⟩ := listed
    refine ⟨text, r, t, here, heads, ?_⟩
    by_cases last : ∃ next, index < next ∧ Reported template delimiter next index value
    · exact .inr last
    · exact .inl (get?_explicit_of_unreported here heads listed last)
  · constructor
    · intro ordered text member value twice
      obtain ⟨index, here⟩ := List.mem_iff_getElem?.1 member
      have itself := ordered index index value (reported_iff.2 ⟨text, here, .inr ⟨rfl, twice⟩⟩)
      exact Nat.lt_irrefl index itself
    · intro once index previous value reported
      obtain ⟨text, here, ⟨ordered, -⟩ | ⟨-, twice⟩⟩ := reported_iff.1 reported
      · exact ordered
      · exact absurd twice (once text (List.mem_of_getElem? here) value)

/-- The third part takes a value over from the first one, and lists it twice. -/
theorem duplicate_reported_overridden :
    Reported "\x7b2,3\x7da|x|\x7b2.0,2\x7db" "|" 2 0 "2" ∧
      ∃ (text : String) (r : Grammar.ListRule) (t : String),
        (Text.split "|" "\x7b2,3\x7da|x|\x7b2.0,2\x7db")[2]? = some text ∧ r.Heads text t ∧
        ((VariantSet.ofTemplate "\x7b2,3\x7da|x|\x7b2.0,2\x7db" "|").explicit.get? "2" = some t ∨
          ∃ next, 2 < next ∧ Reported "\x7b2,3\x7da|x|\x7b2.0,2\x7db" "|" next 2 "2") := by
  have reported : Reported "\x7b2,3\x7da|x|\x7b2.0,2\x7db" "|" 2 0 "2" :=
    ⟨9, by decide +kernel⟩
  exact ⟨reported, (duplicate_reported_iff _ _).2.1 2 0 "2" reported⟩

/-- A part that lists one value in two spellings is warned about as if it took it over from
itself. -/
theorem repeated_value_names_itself :
    ofTemplate "\x7b1,1.0\x7da|b" "|" = [.duplicateExplicitValue 0 0 0 "1"] ∧
      ¬ ∀ index previous value, Reported "\x7b1,1.0\x7da|b" "|" index previous value →
        previous < index := by
  have only : ofTemplate "\x7b1,1.0\x7da|b" "|" = [.duplicateExplicitValue 0 0 0 "1"] := by
    decide +kernel
  refine ⟨only, fun ordered => ?_⟩
  have itself : Reported "\x7b1,1.0\x7da|b" "|" 0 0 "1" := ⟨0, by simp [only]⟩
  exact Nat.lt_irrefl 0 (ordered 0 0 "1" itself)

end Lint

end PluralTemplate
