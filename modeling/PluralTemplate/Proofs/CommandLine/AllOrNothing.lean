import PluralTemplate.Proofs.CommandLine.Numbers
import PluralTemplate.Proofs.Json
import PluralTemplate.Proofs.Table

/-!
# A listing is printed as a whole or not at all

The rows of all numbers are made before anything is printed, so one text that is not a number leaves
the standard output empty, wherever it stands among numbers (`run_cases`). A locale without plural
rules is found out before the numbers are looked at. A listing is never empty, so the standard
output tells whether there was one.

What a listing looks like is said of the printed text itself: it is a JSON object (`PrintsObject`),
or a line of categories above a table (`PrintsReport`). Both show one row for each number. The rows
are determined by the numbers (`forall₂_row_iff`), since no category is listed twice.
-/

set_option autoImplicit false

namespace PluralTemplate.CommandLine.CategoriesArguments

variable {a : CategoriesArguments} {c : Classifier}

/-! ## What is printed -/

/-- The output is a JSON object. Its categories are the given names, and each of its numbers has
the text of the input, the name of its category and its index. -/
def PrintsObject (locale : String) (names : List String) (rows : List NumberRow)
    (output : String) : Prop :=
  ∃ written, output = written ++ "\n" ∧
    Json.Written
      (.object
        [("locale", .text locale),
         ("categories", .list (names.map .text)),
         ("numbers", .list (rows.map fun r => .object
           [("input", .text r.input), ("category", .text r.category.name),
            ("index", .number r.index)]))])
      written

/-- The output is a line with the locale and the given names. Below it is a table with the input,
the category and the index of each number, unless there are no numbers. -/
def PrintsReport (highlight : Bool) (locale : String) (names : List String)
    (rows : List NumberRow) (output : String) : Prop :=
  ∃ title below,
    output = title ++ ": " ++ String.intercalate ", " names ++ "\n" ++ below ∧
    title = (if highlight then "\x1b[1m" ++ locale ++ "\x1b[0m" else locale) ∧
    (rows = [] → below = "") ∧
    (rows ≠ [] → ∃ drawn, below = drawn ++ "\n" ∧
      Table.Drawn ["Number", "Category", "Index"]
        (rows.map fun r => [r.input, r.category.name, toString r.index]) drawn)

theorem printsObject_listing (asked : a.json = true) (settings : Settings) (c : Classifier)
    (rows : List NumberRow) :
    PrintsObject a.locale (c.categories.map Plural.Category.name) rows
      (a.listing settings c rows).output := by
  refine ⟨(a.document c rows).pretty, if_pos asked, ?_⟩
  rw [List.map_map]
  exact Json.written_pretty (a.document c rows)

-- White space around a number is kept, and a control in it is escaped.
example : (run ⟨"ja", [" 5\n"], true⟩ ⟨false, []⟩).output =
    "\x7b\n" ++
    "  \"locale\": \"ja\",\n" ++
    "  \"categories\": [\n" ++
    "    \"other\"\n" ++
    "  ],\n" ++
    "  \"numbers\": [\n" ++
    "    \x7b\n" ++
    "      \"input\": \" 5\\n\",\n" ++
    "      \"category\": \"other\",\n" ++
    "      \"index\": 0\n" ++
    "    \x7d\n" ++
    "  ]\n" ++
    "\x7d\n" := by
  decide +kernel

theorem drawn_table (rows : List NumberRow) :
    Table.Drawn ["Number", "Category", "Index"]
      (rows.map fun r => [r.input, r.category.name, toString r.index]) (table rows).text := by
  refine Table.drawn_text (t := table rows) fun cells member => ?_
  obtain ⟨r, -, rfl⟩ := List.mem_map.1 member
  rfl

theorem printsReport_listing (notAsked : a.json = false) (settings : Settings) (c : Classifier)
    (rows : List NumberRow) :
    PrintsReport settings.highlight a.locale (c.categories.map Plural.Category.name) rows
      (a.listing settings c rows).output := by
  refine ⟨settings.bold a.locale, if rows.isEmpty then "" else (table rows).text ++ "\n",
    ?_, rfl, ?_, ?_⟩
  · simp only [listing, notAsked, Bool.false_eq_true, if_false, report]
  · rintro rfl
    rfl
  · intro nonempty
    exact ⟨(table rows).text, if_neg (mt List.isEmpty_iff.1 nonempty), drawn_table rows⟩

-- The line feed belongs to the number, so the number takes a second line.
example : (run ⟨"ru_RU", ["5", " -21\n"], false⟩ ⟨false, []⟩).output =
    "ru_RU: one, few, many, other\n" ++
    "┌───────────────────────────┐\n" ++
    "│ Number   Category   Index │\n" ++
    "╞═══════════════════════════╡\n" ++
    "│ 5        many       2     │\n" ++
    "│  -21     one        0     │\n" ++
    "│                           │\n" ++
    "└───────────────────────────┘\n" := by
  decide +kernel

/-- Something is printed even if no number was given. -/
theorem output_listing_ne_empty (a : CategoriesArguments) (settings : Settings) (c : Classifier)
    (rows : List NumberRow) : (a.listing settings c rows).output ≠ "" := by
  intro nothing
  have chars := congrArg String.toList nothing
  unfold listing report at chars
  dsimp only at chars
  split at chars <;> simp at chars

/-! ## The rows -/

/-- Since no category is listed twice, a row is right only if it has the index that was found. -/
theorem row_ofRules_eq_ok_iff {rules : Plural.Rules} {input : String} {r : NumberRow} :
    row (.ofRules rules) input = .ok r ↔
      r.input = input ∧ ∃ q, Quantity.parse? r.input = some q ∧
        r.category = (Classifier.ofRules rules).detect q ∧
        (Classifier.ofRules rules).categories[r.index]? = some r.category := by
  have place (q : Quantity) := Classifier.getElem?_index (c := .ofRules rules)
    (rules.detect_mem_categories q)
  rw [row_eq_ok_iff]
  constructor
  · rintro ⟨q, parsed, rfl⟩
    exact ⟨rfl, q, parsed, rfl, place q⟩
  · rintro ⟨rfl, q, parsed, detected, listed⟩
    have within : r.index < (Classifier.ofRules rules).categories.length :=
      (List.getElem?_eq_some_iff.1 listed).1
    have same : r.index = (Classifier.ofRules rules).index q := by
      refine (List.getElem?_inj within rules.categories_nodup).1 ?_
      rw [listed, place, detected]
    refine ⟨q, parsed, ?_⟩
    rw [← detected, ← same]

/-- The rows of numbers are those that have the numbers in order, each with the category that
stands at its index. -/
theorem forall₂_row_iff {rules : Plural.Rules} {inputs : List String} {rows : List NumberRow} :
    List.Forall₂ (fun input r => row (.ofRules rules) input = .ok r) inputs rows ↔
      rows.map NumberRow.input = inputs ∧
        ∀ r ∈ rows, ∃ q, Quantity.parse? r.input = some q ∧
          r.category = (Classifier.ofRules rules).detect q ∧
          (Classifier.ofRules rules).categories[r.index]? = some r.category := by
  simp only [row_ofRules_eq_ok_iff]
  constructor
  · intro steps
    induction steps with
    | nil => exact ⟨rfl, List.forall_mem_nil _⟩
    | cons step _ ih =>
      exact ⟨List.cons_eq_cons.2 ⟨step.1, ih.1⟩, List.forall_mem_cons.2 ⟨step.2, ih.2⟩⟩
  · rintro ⟨rfl, right⟩
    rw [List.forall₂_map_left_iff, List.forall₂_same]
    exact fun r member => ⟨rfl, right r member⟩

/-! ## Runs -/

theorem run_of_unsupported (unknown : ∀ c, Registry.standard.classifier a.locale ≠ .ok c)
    (settings : Settings) : (a.run settings).exitCode = 65 ∧ (a.run settings).output = "" := by
  unfold run
  cases found : Registry.standard.classifier a.locale with
  | error _ => exact ⟨rfl, rfl⟩
  | ok c => exact absurd found (unknown c)

theorem run_of_numbers (supported : Registry.standard.classifier a.locale = .ok c)
    (numbers : ∀ input ∈ a.numbers, (Quantity.parse? input).isSome) (settings : Settings) :
    ∃ rows, a.run settings = a.listing settings c rows ∧
      List.Forall₂ (fun input r => row c input = .ok r) a.numbers rows := by
  rcases run_cases supported settings with listing | ⟨input, member, noNumber, -⟩
  · exact listing
  · have number := numbers input member
    rw [noNumber] at number
    cases number

/-- Whichever text the error is about, nothing is printed. -/
theorem run_of_noNumber (supported : Registry.standard.classifier a.locale = .ok c) {input : String}
    (member : input ∈ a.numbers) (noNumber : Quantity.parse? input = none) (settings : Settings) :
    (a.run settings).exitCode = 70 ∧ (a.run settings).output = "" := by
  rcases run_cases supported settings with ⟨rows, -, steps⟩ | ⟨other, -, -, refusal⟩
  · have number := isSome_of_rows steps input member
    rw [noNumber] at number
    cases number
  · rw [refusal]
    exact ⟨rfl, rfl⟩

theorem output_run_ne_empty_iff (a : CategoriesArguments) (settings : Settings) :
    (a.run settings).output ≠ "" ↔
      (∃ c, Registry.standard.classifier a.locale = .ok c) ∧
        ∀ input ∈ a.numbers, (Quantity.parse? input).isSome := by
  constructor
  · intro printed
    by_cases known : ∃ c, Registry.standard.classifier a.locale = .ok c
    · obtain ⟨c, supported⟩ := known
      refine ⟨⟨c, supported⟩, fun input member => ?_⟩
      rw [Option.isSome_iff_ne_none]
      intro noNumber
      exact printed (run_of_noNumber supported member noNumber settings).2
    · exact absurd (run_of_unsupported (not_exists.1 known) settings).2 printed
  · rintro ⟨⟨c, supported⟩, numbers⟩
    obtain ⟨rows, ran, -⟩ := run_of_numbers supported numbers settings
    rw [ran]
    exact output_listing_ne_empty a settings c rows

/-- Something is printed just when the locale is supported and every text is a number. Then the exit
code is 0, and the categories are printed with one row for each text, in order, whose index is the
place of its category among those printed. For a locale that is not supported the exit code is 65,
whatever the texts are, and otherwise it is 70 if one of them is not a number. In neither case is
anything printed. -/
theorem listing_all_or_nothing (a : CategoriesArguments) (settings : Settings) :
    ((a.run settings).output ≠ "" ↔
      (∃ c, Registry.standard.classifier a.locale = .ok c) ∧
        ∀ input ∈ a.numbers, (Quantity.parse? input).isSome) ∧
    (∀ c, Registry.standard.classifier a.locale = .ok c →
      (∀ input ∈ a.numbers, (Quantity.parse? input).isSome) →
      ∃ (names : List String) (rows : List NumberRow),
        (a.run settings).exitCode = 0 ∧
        (a.json = true → PrintsObject a.locale names rows (a.run settings).output) ∧
        (a.json = false →
          PrintsReport settings.highlight a.locale names rows (a.run settings).output) ∧
        names = c.categories.map Plural.Category.name ∧
        rows.map NumberRow.input = a.numbers ∧
        ∀ r ∈ rows, names[r.index]? = some r.category.name ∧
          ∃ q, Quantity.parse? r.input = some q ∧ r.category = c.detect q ∧
            c.categories[r.index]? = some r.category) ∧
    ((∀ c, Registry.standard.classifier a.locale ≠ .ok c) →
      (a.run settings).exitCode = 65 ∧ (a.run settings).output = "") ∧
    ∀ c, Registry.standard.classifier a.locale = .ok c →
      (∃ input ∈ a.numbers, Quantity.parse? input = none) →
      (a.run settings).exitCode = 70 ∧ (a.run settings).output = "" := by
  refine ⟨output_run_ne_empty_iff a settings, fun c supported numbers => ?_,
    fun unknown => run_of_unsupported unknown settings, ?_⟩
  · obtain ⟨rows, ran, steps⟩ := run_of_numbers supported numbers settings
    obtain ⟨rules, -, rfl⟩ := Registry.exists_rules_of_classifier_standard supported
    obtain ⟨inputs, right⟩ := forall₂_row_iff.1 steps
    rw [ran]
    refine ⟨_, rows, rfl, fun asked => printsObject_listing asked settings _ rows,
      fun notAsked => printsReport_listing notAsked settings _ rows, rfl, inputs, ?_⟩
    intro r member
    obtain ⟨q, parsed, detected, listed⟩ := right r member
    refine ⟨?_, q, parsed, detected, listed⟩
    rw [List.getElem?_map, listed, Option.map_some]
  · rintro c supported ⟨input, member, noNumber⟩
    exact run_of_noNumber supported member noNumber settings

/-- Numbers are listed on their own, and are not beside a text that is none. -/
theorem listing_all_or_nothing_russian :
    let numbers (json : Bool) : CategoriesArguments := ⟨"ru_RU", ["5", " -21 "], json⟩
    let names := ["one", "few", "many", "other"]
    let rows : List NumberRow := [⟨"5", .many, 2⟩, ⟨" -21 ", .one, 0⟩]
    let mixed : CategoriesArguments := ⟨"ru_RU", ["5", "lots", "-21"], true⟩
    let elsewhere : CategoriesArguments := ⟨"tlh_QO", ["5", "lots"], false⟩
    ∀ settings,
      (((numbers true).run settings).exitCode = 0 ∧
        PrintsObject "ru_RU" names rows ((numbers true).run settings).output) ∧
      (((numbers false).run settings).exitCode = 0 ∧
        PrintsReport settings.highlight "ru_RU" names rows
          ((numbers false).run settings).output) ∧
      ((mixed.run settings).exitCode = 70 ∧ (mixed.run settings).output = "") ∧
      (elsewhere.run settings).exitCode = 65 ∧ (elsewhere.run settings).output = "" := by
  intro numbers names rows mixed elsewhere settings
  have russian : Registry.rules? "ru_RU" = some .eastSlavic := by decide +kernel
  have klingon : Registry.rules? "tlh_QO" = none := by decide +kernel
  have supported : ∀ locale, locale = "ru_RU" →
      Registry.standard.classifier locale = .ok (.ofRules .eastSlavic) := by
    rintro _ rfl
    simp only [Registry.standard, russian]
  have unknown : ∀ c, Registry.standard.classifier elsewhere.locale ≠ .ok c := by
    intro c known
    obtain ⟨rules, found, -⟩ := Registry.exists_rules_of_classifier_standard known
    rw [klingon] at found
    cases found
  have five : row (.ofRules .eastSlavic) "5" = .ok ⟨"5", .many, 2⟩ := by decide +kernel
  have padded : row (.ofRules .eastSlavic) " -21 " = .ok ⟨" -21 ", .one, 0⟩ := by decide +kernel
  have all : ∀ input ∈ ["5", " -21 "], (Quantity.parse? input).isSome = true := by decide +kernel
  have lots : ∃ input ∈ mixed.numbers, Quantity.parse? input = none := by decide +kernel
  have printed : ∀ json, ((numbers json).run settings).exitCode = 0 ∧
      (json = true → PrintsObject "ru_RU" names rows ((numbers json).run settings).output) ∧
      (json = false → PrintsReport settings.highlight "ru_RU" names rows
        ((numbers json).run settings).output) := by
    intro json
    obtain ⟨-, listed, -⟩ := listing_all_or_nothing (numbers json) settings
    obtain ⟨_, found, success, object, report, rfl, inputs, right⟩ :=
      listed _ (supported (numbers json).locale rfl) all
    have steps := forall₂_row_iff.2 ⟨inputs, fun r member => (right r member).2⟩
    obtain rfl : rows = found := by
      obtain ⟨⟩ | ⟨first, ⟨⟩ | ⟨second, ⟨⟩⟩⟩ := steps
      rw [five] at first
      rw [padded] at second
      cases first
      cases second
      rfl
    exact ⟨success, object, report⟩
  obtain ⟨-, -, -, refused⟩ := listing_all_or_nothing mixed settings
  obtain ⟨-, -, unsupported, -⟩ := listing_all_or_nothing elsewhere settings
  exact ⟨⟨(printed true).1, (printed true).2.1 rfl⟩, ⟨(printed false).1, (printed false).2.2 rfl⟩,
    refused _ (supported mixed.locale rfl) lots, unsupported unknown⟩

end PluralTemplate.CommandLine.CategoriesArguments
