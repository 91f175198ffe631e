import PluralTemplate.Inspection
import PluralTemplate.Proofs.Plural.Places
import PluralTemplate.Proofs.Selection.ByParts

/-!
# Labels agree with selection

The rows of a template count its plain parts along and label each with the category at the place
it has reached. Selection asks the other way round: it finds the place of a category and takes
the plain part there. Categories are listed once each, so the rows with the label of a category
are the plain part at its place and no other (`templates_labelled`), and a row beyond all
categories stands behind every place that selection can ask for (`length_le_of_unused`).
-/

set_option autoImplicit false

namespace PluralTemplate

open Plural (Category)

theorem Plural.Category.name_injective {c d : Category} (same : c.name = d.name) : c = d := by
  cases c <;> cases d <;> first | rfl | exact absurd same (by decide)

/-- No category is shown as unused. -/
theorem PlainLabel.text_injective {a b : PlainLabel} (same : a.text = b.text) : a = b := by
  cases a with
  | unused =>
    cases b with
    | unused => rfl
    | category d => cases d <;> exact absurd same (by decide)
  | category c =>
    cases b with
    | unused => cases c <;> exact absurd same (by decide)
    | category d => rw [Plural.Category.name_injective same]

namespace PartRow

/-- Whether a row is shown with a label. -/
def isLabelled (label : PlainLabel) (row : PartRow) : Bool :=
  row.label.map PlainLabel.text == some label.text

theorem isLabelled_iff {label : PlainLabel} {row : PartRow} :
    row.isLabelled label = true ↔ row.label = some label := by
  rw [isLabelled, beq_iff_eq, Option.map_eq_some_iff]
  constructor
  · rintro ⟨shown, found, same⟩
    rw [found, PlainLabel.text_injective same]
  · rintro found
    exact ⟨label, found, rfl⟩

def isPlain (row : PartRow) : Bool := row.kind == "plain"

section

variable {categories : List Category} {c : Category} {place : Nat}

/-- A place has the label of a category if the category stands there. -/
theorem labelAt_eq_category_iff :
    labelAt categories place = .category c ↔ categories[place]? = some c := by
  unfold labelAt
  cases categories[place]? <;> simp

theorem labelAt_eq_unused_iff :
    labelAt categories place = .unused ↔ categories.length ≤ place := by
  rw [← List.getElem?_eq_none_iff]
  unfold labelAt
  cases categories[place]? <;> simp

/-- The row of a part that so many parts and plain parts stand before. -/
def ofPart (categories : List Category) (index plains : Nat) (part : Part) : PartRow where
  index := index
  kind := part.kind
  rule := part.ruleText
  template := part.template
  label := if part.isPlain then some (labelAt categories plains) else none

theorem rowsFrom_cons (categories : List Category) (index plains : Nat) (part : Part)
    (rest : List Part) :
    rowsFrom (some categories) index plains (part :: rest) =
      ofPart categories index plains part ::
        rowsFrom (some categories) (index + 1) (if part.isPlain then plains + 1 else plains) rest :=
  rfl

theorem isPlain_ofPart (categories : List Category) (index plains : Nat) (part : Part) :
    (ofPart categories index plains part).isPlain = part.isPlain := by
  cases part <;> rfl

/-- Plain parts are labelled, with what stands at their place among them. -/
theorem isLabelled_ofPart_iff {label : PlainLabel} {index plains : Nat} {part : Part} :
    (ofPart categories index plains part).isLabelled label = true ↔
      part.isPlain = true ∧ labelAt categories plains = label := by
  rw [isLabelled_iff, ofPart]
  cases part.isPlain <;> simp

/-! ## Rows and parts -/

variable {parts : List Part} {index plains : Nat} {row : PartRow}

/-- A row shows the part of its index. -/
theorem exists_part_of_mem_rowsFrom (member : row ∈ rowsFrom (some categories) index plains parts) :
    ∃ i part before, parts[i]? = some part ∧ row = ofPart categories (index + i) before part := by
  induction parts generalizing index plains with
  | nil => cases member
  | cons part rest ih =>
    rw [rowsFrom_cons] at member
    rcases List.mem_cons.1 member with rfl | later
    · exact ⟨0, part, plains, rfl, rfl⟩
    · obtain ⟨i, found, before, here, rfl⟩ := ih later
      exact ⟨i + 1, found, before, here, by rw [Nat.add_right_comm, Nat.add_assoc]⟩

/-- The rows with the label of a category show the plain part at its place, if there is one. -/
theorem templates_labelled (once : categories.Nodup) (stands : categories[place]? = some c)
    (parts : List Part) (index plains : Nat) :
    ((rowsFrom (some categories) index plains parts).filter (isLabelled (.category c))).map
        template =
      if plains ≤ place then
        ((parts.filter Part.isPlain).map Part.template)[place - plains]?.toList
      else [] := by
  -- The count of plain parts may be short of the place, at it, or past it; it grows by one with
  -- each plain part, so it is at the place for one part at most.
  induction parts generalizing index plains with
  | nil => simp [rowsFrom]
  | cons part rest ih =>
    rw [rowsFrom_cons]
    by_cases plain : part.isPlain = true
    · have labelled : (ofPart categories index plains part).isLabelled (.category c) = true ↔
          plains = place := by
        rw [isLabelled_ofPart_iff, labelAt_eq_category_iff, ← stands]
        constructor
        · rintro ⟨-, same⟩
          have within := (List.getElem?_eq_some_iff.1 stands).1
          exact ((List.getElem?_inj within once).1 same.symm).symm
        · rintro rfl
          exact ⟨plain, rfl⟩
      rw [List.filter_cons_of_pos plain, List.map_cons, if_pos plain]
      rcases Nat.lt_trichotomy plains place with ahead | here | behind
      · have next : place - plains = place - (plains + 1) + 1 := by omega
        rw [List.filter_cons_of_neg (mt labelled.1 (Nat.ne_of_lt ahead)), ih,
          if_pos (Nat.succ_le_of_lt ahead), if_pos (Nat.le_of_lt ahead), next,
          List.getElem?_cons_succ]
      · rw [List.filter_cons_of_pos (labelled.2 here), List.map_cons, ih, here,
          if_neg (Nat.not_succ_le_self place), if_pos (Nat.le_refl place), Nat.sub_self]
        rfl
      · rw [List.filter_cons_of_neg (mt labelled.1 (Nat.ne_of_gt behind)), ih,
          if_neg (by omega), if_neg (by omega)]
    · have unlabelled : ¬ (ofPart categories index plains part).isLabelled (.category c) = true :=
        fun labelled => plain (isLabelled_ofPart_iff.1 labelled).1
      rw [List.filter_cons_of_neg unlabelled, List.filter_cons_of_neg plain, if_neg plain, ih]

/-- A row with a label shows a plain part. -/
theorem part_of_labelled {label : PlainLabel}
    (member : row ∈ rows (some categories) parts) (labelled : row.isLabelled label = true) :
    parts[row.index]? = some (.plain row.template) := by
  obtain ⟨i, part, before, here, rfl⟩ := exists_part_of_mem_rowsFrom member
  obtain ⟨plain, -⟩ := isLabelled_ofPart_iff.1 labelled
  cases part with
  | plain text =>
    rw [ofPart, Nat.zero_add]
    exact here
  | explicit _ _ => cases plain
  | interval _ _ => cases plain

/-- Rows that show one text or none are a single row if there is any. -/
theorem eq_singleton_of_templates {found : List PartRow} {text? : Option String}
    (templates : found.map template = text?.toList) (member : row ∈ found) :
    ∃ text, text? = some text ∧ found = [row] ∧ text = row.template := by
  cases text? with
  | none =>
    rw [List.map_eq_nil_iff.1 templates] at member
    cases member
  | some text =>
    obtain ⟨only, rfl, rfl⟩ := List.map_eq_singleton_iff.1 templates
    rw [List.mem_singleton.1 member]
    exact ⟨_, rfl, rfl, rfl⟩

/-- A row without a category has as many plain rows before it as there are categories. -/
theorem length_le_of_unused {before after : List PartRow}
    (split : rowsFrom (some categories) index plains parts = before ++ row :: after)
    (unused : row.isLabelled .unused = true) :
    categories.length ≤ plains + before.countP isPlain := by
  induction parts generalizing index plains before with
  | nil => simp [rowsFrom] at split
  | cons part rest ih =>
    rw [rowsFrom_cons] at split
    cases before with
    | nil =>
      obtain ⟨rfl, -⟩ := List.cons.inj split
      exact labelAt_eq_unused_iff.1 (isLabelled_ofPart_iff.1 unused).2
    | cons first before =>
      obtain ⟨rfl, rest⟩ := List.cons.inj split
      have bound := ih rest
      rw [List.countP_cons, isPlain_ofPart]
      split at bound
      · rename_i plain
        rw [if_pos plain]
        omega
      · rename_i plain
        rw [if_neg plain]
        omega

end

end PartRow

/-- Take a locale that the standard registry knows, the rows of a template for its categories,
and a quantity that is neither listed nor in an interval. If a row is labelled with the category
of the quantity, then no other row is, it shows a plain part, and selection takes its template;
if none is, selection takes the default. Whatever the quantity, its place is not that of a row
shown as unused. -/
theorem labels_agree_with_selection {locale : String} {c : Classifier}
    (supported : Registry.standard.classifier locale = .ok c) (template delimiter : String)
    (q : Quantity) :
    let parts := VariantSet.parts template delimiter
    let rows := PartRow.rows (some c.categories) parts
    let set := VariantSet.ofTemplate template delimiter
    let labelled := PartRow.isLabelled (.category (c.detect q))
    ((∀ part ∈ parts, part.lists q.canonical = false) →
      (∀ part ∈ parts, part.covers q.value = false) →
      (∀ row ∈ rows, labelled row = true →
        rows.filter labelled = [row] ∧ parts[row.index]? = some (.plain row.template) ∧
        set.select q locale .standard = row.template) ∧
      ((∀ row ∈ rows, labelled row = false) → set.select q locale .standard = set.default)) ∧
    ∀ before row after, rows = before ++ row :: after → row.isLabelled .unused = true →
      Registry.standard.categoryIndex locale q ≠ before.countP PartRow.isPlain := by
  intro parts rows set labelled
  obtain ⟨rules, -, rfl⟩ := Registry.exists_rules_of_classifier_standard supported
  have listed : (Classifier.ofRules rules).detect q ∈ (Classifier.ofRules rules).categories :=
    rules.detect_mem_categories q
  have stands := Classifier.getElem?_index listed
  rw [← Registry.categoryIndex_of_classifier supported] at stands
  have templates := PartRow.templates_labelled rules.categories_nodup stands parts 0 0
  rw [if_pos (Nat.zero_le _), Nat.sub_zero] at templates
  refine ⟨fun unlisted uncovered => ?_, fun before row after split unused => ?_⟩
  · have selected : set.select q locale .standard = _ :=
      VariantSet.select_ofParts_of_unlisted template unlisted uncovered locale .standard
    refine ⟨fun row member carries => ?_, fun none => ?_⟩
    · obtain ⟨text, found, only⟩ := PartRow.eq_singleton_of_templates templates
        (List.mem_filter.2 ⟨member, carries⟩)
      rw [found] at selected
      exact ⟨only.1, PartRow.part_of_labelled member carries, selected.trans only.2⟩
    · have empty : rows.filter labelled = [] :=
        List.filter_eq_nil_iff.2 fun row member => Bool.eq_false_iff.1 (none row member)
      have missing := templates.symm.trans (congrArg (List.map PartRow.template) empty)
      rw [List.map_nil, Option.toList_eq_nil_iff] at missing
      rw [missing] at selected
      exact selected
  · have bound := PartRow.length_le_of_unused split unused
    have within := (List.getElem?_eq_some_iff.1 stands).1
    rw [Nat.zero_add] at bound
    exact Nat.ne_of_lt (Nat.lt_of_lt_of_le within bound)

/-- Five files in Polish are `many`, the third plain part among parts of other kinds, and the
fifth plain part is one too many. -/
theorem labels_agree_with_selection_polish :
    let parts := VariantSet.parts "\x7b0\x7dbrak|plik|[100,200]sto|pliki|plików|pliku|nadmiar" "|"
    let rows := PartRow.rows (some (Classifier.ofRules .polish).categories) parts
    (VariantSet.ofTemplate "\x7b0\x7dbrak|plik|[100,200]sto|pliki|plików|pliku|nadmiar" "|").select
      (.integer 5) "pl" .standard = "plików" ∧
    rows = rows.take 6 ++ [⟨6, "plain", "", some .unused, "nadmiar"⟩] ∧
    Registry.standard.categoryIndex "pl" (.integer 5) ≠ 4 := by
  intro parts rows
  have found : Registry.rules? "pl" = some .polish := by decide +kernel
  have supported : Registry.standard.classifier "pl" = .ok (.ofRules .polish) := by
    simp only [Registry.standard, found]
  have agree := labels_agree_with_selection supported
    "\x7b0\x7dbrak|plik|[100,200]sto|pliki|plików|pliku|nadmiar" "|" (.integer 5)
  have unlisted : ∀ part ∈ parts, part.lists (Quantity.integer 5).canonical = false := by
    decide +kernel
  have uncovered : ∀ part ∈ parts, part.covers (Quantity.integer 5).value = false := by
    decide +kernel
  have member : ⟨4, "plain", "", some (.category .many), "plików"⟩ ∈ rows := by decide +kernel
  have carries : PartRow.isLabelled (.category ((Classifier.ofRules .polish).detect (.integer 5)))
      ⟨4, "plain", "", some (.category .many), "plików"⟩ = true := by decide +kernel
  have last : rows = rows.take 6 ++ [⟨6, "plain", "", some .unused, "nadmiar"⟩] := by
    decide +kernel
  have before : (rows.take 6).countP PartRow.isPlain = 4 := by decide +kernel
  have apart := agree.2 _ _ _ last (by decide +kernel)
  rw [before] at apart
  exact ⟨((agree.1 unlisted uncovered).1 _ member carries).2.2, last, apart⟩

end PluralTemplate
