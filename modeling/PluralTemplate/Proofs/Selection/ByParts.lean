import PluralTemplate.Selection

/-!
# Selection read off the parts

A variant set sorts the parts of a template by kind and forgets where they stood. Here
selection is stated on the sequence of parts itself: the last explicit part that lists the
quantity is in force, else the first interval that contains it, else the plain part at the
place of its category, else the first part of all (`Part.inForce?`).

What the fold over the parts leaves in each field of the set is one lemma a field, for any set
to begin with.
-/

set_option autoImplicit false

namespace PluralTemplate

namespace Part

/-- Whether the part lists a value, by its canonical text. -/
def lists (canonical : String) : Part → Bool
  | explicit values _ => values.contains canonical
  | _ => false

/-- Whether the part is an interval with the number in it. -/
def covers (x : Binary64) : Part → Bool
  | interval rule _ => rule.contains x
  | _ => false

/-- The part that a quantity selects when its category has a place among the plain parts. -/
def inForce? (q : Quantity) (place : Nat) (parts : List Part) : Option Part :=
  (((parts.filter (lists q.canonical)).getLast?.or (parts.find? (covers q.value))).or
    (parts.filter isPlain)[place]?).or parts.head?

/-- The last part that lists a value is the last of those that do. -/
theorem getLast?_filter_lists {value : String} {before after : List Part} {part : Part}
    (listed : part.lists value = true) (last : ∀ later ∈ after, later.lists value = false) :
    ((before ++ part :: after).filter (lists value)).getLast? = some part := by
  have none : after.filter (lists value) = [] := by
    rw [List.filter_eq_nil_iff]
    intro later member
    rw [last later member]
    exact Bool.false_ne_true
  rw [List.filter_append, List.filter_cons_of_pos listed, none, List.getLast?_append]
  rfl

theorem mem_of_inForce? {q : Quantity} {place : Nat} {parts : List Part} {part : Part}
    (found : inForce? q place parts = some part) : part ∈ parts := by
  simp only [inForce?, Option.or_eq_some_iff] at found
  rcases found with ((last | ⟨-, first⟩) | ⟨-, plain⟩) | ⟨-, head⟩
  · exact (List.mem_filter.1 (List.mem_of_getLast? last)).1
  · exact List.mem_of_find?_eq_some first
  · exact (List.mem_filter.1 (List.mem_of_getElem? plain)).1
  · exact List.mem_of_head? head

end Part

namespace VariantSet

theorem get?_foldl_insert (values : List String) (template key : String)
    (bound : Dictionary String) :
    (values.foldl (fun d value => d.insert value template) bound).get? key =
      if key ∈ values then some template else bound.get? key := by
  induction values generalizing bound with
  | nil => simp
  | cons value rest ih =>
    rw [List.foldl_cons, ih, Dictionary.get?_insert]
    by_cases later : key ∈ rest
    · simp [later]
    · simp [later]

/-- A value is bound to the text of the last part that lists it. -/
theorem explicit_foldl_add (key : String) (parts : List Part) (set : VariantSet) :
    (parts.foldl add set).explicit.get? key =
      ((parts.filter (Part.lists key)).getLast?.map Part.template).or (set.explicit.get? key) := by
  induction parts generalizing set with
  | nil => rfl
  | cons part rest ih =>
    rw [List.foldl_cons, ih, List.filter_cons]
    cases part with
    | explicit values template =>
      by_cases listed : key ∈ values
      · have isListed : Part.lists key (.explicit values template) = true := by
          simpa [Part.lists] using listed
        rw [if_pos isListed, List.getLast?_cons, add, get?_foldl_insert, if_pos listed]
        cases (rest.filter (Part.lists key)).getLast? <;> rfl
      · have notListed : ¬ Part.lists key (.explicit values template) = true := by
          simpa [Part.lists] using listed
        rw [if_neg notListed, add, get?_foldl_insert, if_neg listed]
    | interval rule template => rfl
    | plain template => rfl

/-- In the set of some parts, a value is bound to the text of the last one that lists it. -/
theorem get?_explicit_of_last (whole : String) {value : String} {before after : List Part}
    {part : Part} (listed : part.lists value = true)
    (last : ∀ later ∈ after, later.lists value = false) :
    (ofParts whole (before ++ part :: after)).explicit.get? value = some part.template := by
  rw [ofParts, explicit_foldl_add, Part.getLast?_filter_lists listed last]
  rfl

/-- Intervals keep their order. -/
theorem intervals_foldl_add (x : Binary64) (parts : List Part) (set : VariantSet) :
    ((parts.foldl add set).intervals.find? fun entry => entry.1.contains x).map Prod.snd =
      ((set.intervals.find? fun entry => entry.1.contains x).map Prod.snd).or
        ((parts.find? (Part.covers x)).map Part.template) := by
  induction parts generalizing set with
  | nil => simp
  | cons part rest ih =>
    rw [List.foldl_cons, ih, List.find?_cons]
    cases part with
    | explicit values template => rfl
    | plain template => rfl
    | interval rule template =>
      rw [add, List.find?_append, Option.map_or, Option.or_assoc]
      cases covered : rule.contains x <;> simp [Part.covers, covered, Part.template]

/-- Plain parts keep their order. -/
theorem ordinals_foldl_add (parts : List Part) (set : VariantSet) :
    (parts.foldl add set).ordinals =
      set.ordinals ++ (parts.filter Part.isPlain).map Part.template := by
  induction parts generalizing set with
  | nil => simp
  | cons part rest ih =>
    rw [List.foldl_cons, ih]
    cases part <;> simp [add, List.filter_cons, Part.isPlain, Part.template]

theorem default_foldl_add (parts : List Part) (set : VariantSet) :
    (parts.foldl add set).default = set.default := by
  induction parts generalizing set with
  | nil => rfl
  | cons part rest ih =>
    rw [List.foldl_cons, ih]
    cases part <;> rfl

/-- The order of precedence, as one expression. -/
theorem select_eq_getD (set : VariantSet) (q : Quantity) (locale : String) (registry : Registry) :
    set.select q locale registry =
      (((set.explicit.get? q.canonical).or
        ((set.intervals.find? fun entry => entry.1.contains q.value).map Prod.snd)).or
          set.ordinals[registry.categoryIndex locale q]?).getD set.default := by
  unfold select choose
  cases set.explicit.get? q.canonical with
  | some template => rfl
  | none =>
    cases set.intervals.find? fun entry => entry.1.contains q.value with
    | some entry => rfl
    | none =>
      cases found : set.ordinals[registry.categoryIndex locale q]? <;> simp [found, Choice.template]

/-- A quantity that no part lists and no interval contains selects a plain part by the place of
its category, or the default. -/
theorem select_ofParts_of_unlisted (whole : String) {parts : List Part} {q : Quantity}
    (unlisted : ∀ part ∈ parts, part.lists q.canonical = false)
    (uncovered : ∀ part ∈ parts, part.covers q.value = false) (locale : String)
    (registry : Registry) :
    (ofParts whole parts).select q locale registry =
      (((parts.filter Part.isPlain).map Part.template)[registry.categoryIndex locale q]?).getD
        (ofParts whole parts).default := by
  have noList : parts.filter (Part.lists q.canonical) = [] :=
    List.filter_eq_nil_iff.2 fun part member => Bool.eq_false_iff.1 (unlisted part member)
  have noInterval : parts.find? (Part.covers q.value) = none :=
    List.find?_eq_none.2 fun part member => Bool.eq_false_iff.1 (uncovered part member)
  rw [select_eq_getD]
  congr 1
  rw [ofParts, explicit_foldl_add, intervals_foldl_add, ordinals_foldl_add, noList, noInterval]
  rfl

/-- Selection among the variants of a list of parts is the text of the part in force. -/
theorem select_ofParts (whole : String) {parts : List Part} (nonempty : parts ≠ [])
    (q : Quantity) (locale : String) (registry : Registry) :
    (Part.inForce? q (registry.categoryIndex locale q) parts).map Part.template =
      some ((ofParts whole parts).select q locale registry) := by
  obtain ⟨first, rest, rfl⟩ := List.exists_cons_of_ne_nil nonempty
  rw [select_eq_getD, ofParts, explicit_foldl_add, intervals_foldl_add, ordinals_foldl_add,
    default_foldl_add]
  simp only [Part.inForce?, Option.map_or, empty, Dictionary.get?_empty, List.find?_nil,
    Option.map_none, Option.or_none, Option.none_or, List.nil_append, List.getElem?_map,
    List.head?_cons, Option.map_some, Option.getD_some]
  rw [Option.or_some]

/-- The variant selected from a template is the text of one of its parts, of which there is
one at least: of the part in force. -/
theorem select_eq_part_in_force (template delimiter : String) (q : Quantity) (locale : String)
    (registry : Registry) :
    let parts := (Text.split delimiter template).map Part.ofText
    ∃ part ∈ parts,
      Part.inForce? q (registry.categoryIndex locale q) parts = some part ∧
      (ofTemplate template delimiter).select q locale registry = part.template := by
  intro parts
  have nonempty : parts ≠ [] := by
    simp only [parts, Text.split, ne_eq, List.map_eq_nil_iff]
    exact Text.pieces_ne_nil _ _
  have selected := select_ofParts template nonempty q locale registry
  obtain ⟨part, found, text⟩ := Option.map_eq_some_iff.1 selected
  exact ⟨part, Part.mem_of_inForce? found, found, text.symm⟩

end VariantSet

end PluralTemplate
