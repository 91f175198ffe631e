import PluralTemplate.CommandLine.Categories
import PluralTemplate.CommandLine.Eval
import PluralTemplate.Proofs.Dictionary
import PluralTemplate.Proofs.Plural.Places
import PluralTemplate.Proofs.Quantity.Canonical
import PluralTemplate.Proofs.Resolver.Rendering
import PluralTemplate.Proofs.Selection.ByParts

/-!
# Numbers on the command line

`categories` reads a number as a quantity at once, and white space around it is ignored. `eval`
first tries to make the argument a whole number or a finite binary64 number as it stands; what is
neither stays a text, which is read as a quantity when a variant is selected. Both ways lead to the
same quantity (`Value.quantity?_ofArgument`): a text that is read as a number holds no white space,
so ignoring it changes nothing, and infinities and texts between white space take the second way.

So the two commands take the same texts for numbers, and a plain variant is selected by the place
that is listed for the number (`number_arguments_agree`).
-/

set_option autoImplicit false

namespace PluralTemplate

/-! ## Numerals hold no white space -/

namespace Text

/-- A text without white space. -/
def Visible (text : List Char) : Prop := ∀ c ∈ text, isWhiteSpace c = false

variable {text rest : List Char} {c : Char}

theorem visible_nil : Visible [] := List.forall_mem_nil _

theorem Visible.cons (first : isWhiteSpace c = false) (others : Visible rest) :
    Visible (c :: rest) :=
  List.forall_mem_cons.2 ⟨first, others⟩

theorem visible_of_digits (digits : ∀ c ∈ text, c.isDigit = true) : Visible text :=
  fun c member => isWhiteSpace_of_isDigit (digits c member)

/-- What is behind leading digits decides. -/
theorem Visible.of_dropWhile (behind : Visible (text.dropWhile Char.isDigit)) : Visible text := by
  rw [← List.takeWhile_append_dropWhile (p := Char.isDigit) (l := text)]
  exact List.forall_mem_append.2
    ⟨visible_of_digits fun _ member => List.mem_takeWhile_imp member, behind⟩

/-- White space has no letter case. -/
theorem toLower_of_isWhiteSpace (white : isWhiteSpace c = true) : c.toLower = c := by
  have noLetter : ¬ (c.val ≥ 'A'.val ∧ c.val ≤ 'Z'.val) := by
    rintro ⟨least, greatest⟩
    have above : 65 ≤ c.toNat := least
    have below : c.toNat ≤ 90 := greatest
    simp only [isWhiteSpace, Bool.or_eq_true, Bool.and_eq_true, decide_eq_true_eq,
      beq_iff_eq] at white
    omega
  exact dif_neg noLetter

theorem visible_of_toLower (lower : Visible (text.map Char.toLower)) : Visible text := by
  intro c member
  rw [Bool.eq_false_iff]
  intro white
  have kept : isWhiteSpace c.toLower = false := lower _ (List.mem_map_of_mem member)
  rw [toLower_of_isWhiteSpace white, white] at kept
  cases kept

end Text

namespace Numeral

open Text (Visible)

variable {text : List Char}

theorem visible_of_splitSign (body : Visible (splitSign text).2) : Visible text := by
  unfold splitSign at body
  split at body
  · exact body.cons rfl
  · exact body.cons rfl
  · exact body

theorem visible_of_isDigits (digits : isDigits text = true) : Visible text := by
  rw [isDigits, Bool.and_eq_true, List.all_eq_true] at digits
  exact Text.visible_of_digits digits.2

theorem visible_of_integer? {n : Int64} (read : integer? text = some n) : Visible text := by
  simp only [integer?] at read
  split at read
  · rename_i digits
    exact visible_of_splitSign (visible_of_isDigits digits)
  · cases read

theorem visible_of_exponent? {e : Int} (read : exponent? text = some e) : Visible text := by
  cases text with
  | nil => exact Text.visible_nil
  | cons mark rest =>
    simp only [exponent?] at read
    split at read
    · rename_i marked
      have shown : Text.isWhiteSpace mark = false := by
        rcases marked.1 with rfl | rfl <;> rfl
      exact (visible_of_splitSign (visible_of_isDigits marked.2)).cons shown
    · cases read

theorem visible_of_splitFraction (behind : Visible (splitFraction text).2) : Visible text := by
  unfold splitFraction at behind
  split at behind
  · exact behind.of_dropWhile.cons rfl
  · exact behind

theorem visible_of_decimal? {d : Decimal} (read : decimal? text = some d) : Visible text := by
  simp only [decimal?] at read
  split at read
  · cases read
  · obtain ⟨e, exponent, -⟩ := Option.map_eq_some_iff.1 read
    exact (visible_of_splitFraction (visible_of_exponent? exponent)).of_dropWhile

theorem visible_of_binary64? {x : Binary64} (read : binary64? text = some x) : Visible text := by
  apply visible_of_splitSign
  simp only [binary64?] at read
  split at read
  · rename_i named
    apply Text.visible_of_toLower
    rcases named with word | word <;> rw [word] <;> exact Text.outside_of_any (by decide)
  · split at read
    · rename_i word
      apply Text.visible_of_toLower
      rw [word]
      exact Text.outside_of_any (by decide)
    · obtain ⟨d, decimal, -⟩ := Option.map_eq_some_iff.1 read
      exact visible_of_decimal? decimal

end Numeral

/-- The value of an argument is read as the quantity that the argument itself is read as. -/
theorem Value.quantity?_ofArgument (argument : String) :
    (Value.ofArgument argument).quantity? = Quantity.parse? argument := by
  unfold ofArgument
  split
  · rename_i n read
    have parsed := Quantity.parse?_of_integer (Numeral.visible_of_integer? read) read
    rw [String.ofList_toList] at parsed
    exact parsed.symm
  · rename_i noInteger
    split
    · rename_i x read
      split
      · have parsed :=
          Quantity.parse?_of_binary64 (Numeral.visible_of_binary64? read) noInteger read
        rw [String.ofList_toList] at parsed
        exact parsed.symm
      · rfl
    · rfl

namespace CommandLine

/-! ## Classified numbers -/

/-- A traversal gives what its steps give, in order, or stops with the error of one of them. -/
theorem mapM_cases {α β ε : Type} (f : α → Except ε β) (xs : List α) :
    (∃ ys, xs.mapM f = .ok ys ∧ List.Forall₂ (fun x y => f x = .ok y) xs ys) ∨
    ∃ x ∈ xs, ∃ e, f x = .error e ∧ xs.mapM f = .error e := by
  induction xs with
  | nil => exact .inl ⟨[], rfl, .nil⟩
  | cons x rest ih =>
    rw [List.mapM_cons]
    cases head : f x with
    | error e => exact .inr ⟨x, List.mem_cons_self, e, head, rfl⟩
    | ok y =>
      rcases ih with ⟨ys, walked, steps⟩ | ⟨z, member, e, failed, stopped⟩
      · rw [walked]
        exact .inl ⟨y :: ys, rfl, .cons head steps⟩
      · rw [stopped]
        exact .inr ⟨z, List.mem_cons_of_mem x member, e, failed, rfl⟩

namespace CategoriesArguments

variable {a : CategoriesArguments} {c : Classifier} {input : String}

theorem row_eq_ok_iff {r : NumberRow} :
    row c input = .ok r ↔
      ∃ q, Quantity.parse? input = some q ∧ r = ⟨input, c.detect q, c.index q⟩ := by
  unfold row
  cases Quantity.parse? input with
  | none => simp
  | some q => simp [eq_comm]

theorem isSome_of_row {r : NumberRow} (accepted : row c input = .ok r) :
    (Quantity.parse? input).isSome = true := by
  obtain ⟨q, parsed, -⟩ := row_eq_ok_iff.1 accepted
  exact Option.isSome_of_eq_some parsed

theorem row_eq_error_iff {e : String} :
    row c input = .error e ↔ Quantity.parse? input = none ∧ e = input := by
  unfold row
  cases Quantity.parse? input with
  | none => simp [eq_comm]
  | some q => simp

/-- Texts that have rows are numbers. -/
theorem isSome_of_rows {inputs : List String} {rows : List NumberRow}
    (steps : List.Forall₂ (fun input r => row c input = .ok r) inputs rows) :
    ∀ input ∈ inputs, (Quantity.parse? input).isSome = true :=
  ((List.forall₂_and_left _ _).1 (steps.imp fun _ _ step => And.intro (isSome_of_row step) step)).1

/-- The outcome with a row for every number. -/
def listing (a : CategoriesArguments) (settings : Settings) (c : Classifier)
    (rows : List NumberRow) : Outcome where
  exitCode := ExitCode.success
  output :=
    if a.json then (a.document c rows).pretty ++ "\n" else a.report settings c rows
  errors := ""

/-- The outcome for a text that is not a number. -/
def refusal (input : String) : Outcome :=
  ⟨ExitCode.failure, "", "'" ++ input ++ "' is not a number\n"⟩

/-- The command lists the rows of all numbers, or refuses one of the texts. -/
theorem run_cases (supported : Registry.standard.classifier a.locale = .ok c)
    (settings : Settings) :
    (∃ rows, a.run settings = a.listing settings c rows ∧
      List.Forall₂ (fun input r => row c input = .ok r) a.numbers rows) ∨
    ∃ input ∈ a.numbers, Quantity.parse? input = none ∧ a.run settings = refusal input := by
  rcases mapM_cases (row c) a.numbers with
    ⟨rows, walked, steps⟩ | ⟨input, member, e, failed, stopped⟩
  · refine .inl ⟨rows, ?_, steps⟩
    simp only [run, supported, walked, listing]
  · obtain ⟨noNumber, rfl⟩ := row_eq_error_iff.1 failed
    refine .inr ⟨e, member, noNumber, ?_⟩
    simp only [run, supported, stopped, refusal]

/-- The command succeeds just when every text is a number. -/
theorem exitCode_run_eq_success_iff (supported : Registry.standard.classifier a.locale = .ok c)
    (settings : Settings) :
    (a.run settings).exitCode = ExitCode.success ↔
      ∀ input ∈ a.numbers, (Quantity.parse? input).isSome := by
  rcases run_cases supported settings with
    ⟨rows, listed, steps⟩ | ⟨input, member, noNumber, refused⟩
  · rw [listed]
    exact iff_of_true rfl (isSome_of_rows steps)
  · have failed : (refusal input).exitCode ≠ ExitCode.success :=
      (by decide : ExitCode.failure ≠ ExitCode.success)
    rw [refused]
    refine iff_of_false failed fun all => ?_
    have number := all input member
    rw [noNumber] at number
    cases number

end CategoriesArguments

/-! ## Evaluation with a number -/

namespace EvalArguments

variable {a : EvalArguments} {raw : String}

/-- The argument that is given for the trigger. The last one counts. -/
def triggerArgument? (a : EvalArguments) : Option String :=
  (a.parameters.filter fun parameter => parameter.1 = a.trigger).getLast?.map Prod.snd

/-- Variants are selected, and by this argument. -/
structure SelectsBy (a : EvalArguments) (raw : String) : Prop where
  plural : a.noPlural = false
  given : a.triggerArgument? = some raw

/-- The quantity of the value for the trigger, if it is taken for a number. -/
def quantity? (a : EvalArguments) : Option Quantity :=
  (a.values.get? a.trigger).bind Value.quantity?

def variants (a : EvalArguments) : VariantSet := .ofTemplate a.template a.delimiter

/-- The variant that is filled in. -/
def variant (a : EvalArguments) : String :=
  (a.resolver.variant a.template a.values a.locale).1

theorem get?_trigger (a : EvalArguments) :
    a.values.get? a.trigger = a.triggerArgument?.map Value.ofArgument := by
  rw [values, Dictionary.get?_ofList, List.filter_map, List.getLast?_map, triggerArgument?,
    Option.map_map, Option.map_map]
  rfl

theorem SelectsBy.quantity?_eq (selects : a.SelectsBy raw) :
    a.quantity? = Quantity.parse? raw := by
  rw [quantity?, get?_trigger, selects.given, Option.map_some, Option.bind_some,
    Value.quantity?_ofArgument]

theorem handler_foldl {α : Type} {add : Resolver → α → Resolver}
    (kept : ∀ r x, (add r x).handler = r.handler) (xs : List α) (r : Resolver) :
    (xs.foldl add r).handler = r.handler := by
  induction xs generalizing r with
  | nil => rfl
  | cons x rest ih => rw [List.foldl_cons, ih, kept]

/-- Filters and replacements leave the handler alone. -/
theorem handler_resolver (a : EvalArguments) :
    a.resolver.handler = (Resolver.ofAffixes a.opening a.closing a.handler).handler := by
  rw [resolver, handler_foldl, handler_foldl]
  · exact fun _ _ => rfl
  · exact fun _ _ => rfl

theorem variant_eq_chosen (a : EvalArguments) :
    a.variant = Resolver.chosen a.handler a.template a.values a.locale := by
  have off : ∀ h ∈ a.handler, h.needs a.values = true → h.SwitchedOff := by
    intro h made _
    unfold handler at made
    split at made
    · cases made
    · cases made
      exact ⟨a.trigger, a.delimiter, .standard, [], rfl⟩
  have plain := Resolver.variant_eq_chosen off a.opening a.closing a.template a.locale
  rw [variant, Resolver.variant_congr a.handler_resolver, plain]

theorem SelectsBy.variant_eq (selects : a.SelectsBy raw) :
    a.variant =
      match Quantity.parse? raw with
      | some q => a.variants.select q a.locale .standard
      | none => a.variants.default := by
  have value := a.get?_trigger
  rw [selects.given, Option.map_some] at value
  rw [variant_eq_chosen, handler, selects.plural]
  simp only [Bool.false_eq_true, if_false, Resolver.chosen, value, Value.quantity?_ofArgument]
  rfl

/-- A number that no explicit value and no interval matches selects by place. -/
theorem SelectsBy.variant_eq_ordinal (selects : a.SelectsBy raw) {q : Quantity}
    (parsed : Quantity.parse? raw = some q)
    (unlisted : a.variants.explicit.get? q.canonical = none)
    (uncovered : ∀ entry ∈ a.variants.intervals, entry.1.contains q.value = false) :
    a.variant = (a.variants.ordinals[Registry.standard.categoryIndex a.locale q]?).getD
      a.variants.default := by
  have noInterval : a.variants.intervals.find? (fun entry => entry.1.contains q.value) = none :=
    List.find?_eq_none.2 fun entry member => Bool.eq_false_iff.1 (uncovered entry member)
  rw [selects.variant_eq, parsed]
  simp only [VariantSet.select_eq_getD, unlisted, noInterval, Option.map_none, Option.none_or]

end EvalArguments

/-- Every argument is the same quantity for both commands. So in a locale with plural rules one
takes the argument for a number if the other does, and the index that is listed for a number is
the place of the plain variant that is selected, if nothing else matches. -/
theorem number_arguments_agree :
    (∀ raw : String, (Value.ofArgument raw).quantity? = Quantity.parse? raw) ∧
    (∀ (a : CategoriesArguments) (c : Classifier) (settings : Settings),
      Registry.standard.classifier a.locale = .ok c →
      ((a.run settings).exitCode = ExitCode.success ↔
        ∀ raw ∈ a.numbers, (Value.ofArgument raw).quantity?.isSome)) ∧
    ∀ (a : EvalArguments) (c : Classifier) (raw : String),
      Registry.standard.classifier a.locale = .ok c → a.SelectsBy raw →
      ((∃ r, CategoriesArguments.row c raw = .ok r) ↔ a.quantity?.isSome) ∧
      (a.quantity? = none → a.variant = a.variants.default) ∧
      ∀ r, CategoriesArguments.row c raw = .ok r →
        ∃ q, a.quantity? = some q ∧ r.category = c.detect q ∧
          r.index = Registry.standard.categoryIndex a.locale q ∧
          (a.variants.explicit.get? q.canonical = none →
            (∀ entry ∈ a.variants.intervals, entry.1.contains q.value = false) →
              a.variant = (a.variants.ordinals[r.index]?).getD a.variants.default) := by
  refine ⟨Value.quantity?_ofArgument, ?_, ?_⟩
  · intro a c settings supported
    simp only [Value.quantity?_ofArgument]
    exact CategoriesArguments.exitCode_run_eq_success_iff supported settings
  · intro a c raw supported selects
    rw [selects.quantity?_eq]
    refine ⟨⟨?_, ?_⟩, ?_, ?_⟩
    · rintro ⟨r, accepted⟩
      exact CategoriesArguments.isSome_of_row accepted
    · intro number
      obtain ⟨q, parsed⟩ := Option.isSome_iff_exists.1 number
      exact ⟨_, CategoriesArguments.row_eq_ok_iff.2 ⟨q, parsed, rfl⟩⟩
    · intro noNumber
      rw [selects.variant_eq, noNumber]
    · intro r accepted
      obtain ⟨q, parsed, rfl⟩ := CategoriesArguments.row_eq_ok_iff.1 accepted
      have place := Registry.categoryIndex_of_classifier supported q
      refine ⟨q, parsed, rfl, place.symm, fun unlisted uncovered => ?_⟩
      rw [selects.variant_eq_ordinal parsed unlisted uncovered, place]

/-- Blanks around a number make the one command keep a text and are cut off by the other. The
number is `many` in Russian, the third category. -/
theorem number_arguments_agree_padded :
    let listed : CategoriesArguments := ⟨"ru", [" 5 ", "-1.5", "+inf"], false⟩
    let evaluated : EvalArguments :=
      ⟨"ru", "one|few|many", [("count", "1"), ("count", " 5 ")], Resolver.defaultOpening,
        Resolver.defaultClosing, "|", "count", false, [.upper], [("f", "g")], false⟩
    (∀ settings, (listed.run settings).exitCode = ExitCode.success) ∧
    Value.ofArgument " 5 " = .text " 5 " ∧
    CategoriesArguments.row (.ofRules .eastSlavic) " 5 " = .ok ⟨" 5 ", .many, 2⟩ ∧
    evaluated.quantity? = some (.integer 5) ∧
    evaluated.variant = "many" := by
  intro listed evaluated
  have found : Registry.rules? "ru" = some .eastSlavic := by decide +kernel
  have supported : ∀ locale, locale = "ru" →
      Registry.standard.classifier locale = .ok (.ofRules .eastSlavic) := by
    rintro _ rfl
    simp only [Registry.standard, found]
  have accepted : CategoriesArguments.row (.ofRules .eastSlavic) " 5 " =
      .ok ⟨" 5 ", .many, 2⟩ := by decide +kernel
  have selects : evaluated.SelectsBy " 5 " := ⟨rfl, by decide +kernel⟩
  obtain ⟨-, success, agree⟩ := number_arguments_agree
  obtain ⟨-, -, rows⟩ := agree evaluated _ " 5 " (supported evaluated.locale rfl) selects
  obtain ⟨q, number, -, -, variant⟩ := rows _ accepted
  have five : evaluated.quantity? = some (.integer 5) := by decide +kernel
  obtain rfl : Quantity.integer 5 = q := Option.some.inj (five.symm.trans number)
  have kept : Value.ofArgument " 5 " = .text " 5 " := by decide +kernel
  have numbers : ∀ raw ∈ listed.numbers, (Value.ofArgument raw).quantity?.isSome = true := by
    decide +kernel
  have unlisted : evaluated.variants.explicit.get? (Quantity.integer 5).canonical = none := by
    decide +kernel
  have uncovered : ∀ entry ∈ evaluated.variants.intervals,
      entry.1.contains (Quantity.integer 5).value = false := by
    decide +kernel
  have third : (evaluated.variants.ordinals[2]?).getD evaluated.variants.default = "many" := by
    decide +kernel
  refine ⟨fun settings => ?_, kept, accepted, five, (variant unlisted uncovered).trans third⟩
  exact (success listed _ settings (supported listed.locale rfl)).2 numbers

end CommandLine

end PluralTemplate
