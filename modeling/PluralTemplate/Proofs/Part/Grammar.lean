import PluralTemplate.Part.Reader
import PluralTemplate.Proofs.Text.Reader

/-!
# The grammar of rules

A rule is written in one of two forms, where `ws` is any run of blanks:

* `{` `ws literal`, more literals after `ws` `,` `ws`, `ws` `}`,
* a bracket, `ws lower ws` `,` `ws upper ws`, a bracket.

A literal is digits after an optional minus sign, with digits after an optional point; a lower
bound is a literal or `-Inf`, an upper one a literal, `Inf` or `+Inf`. A part with a rule is the
rule, blanks, and a text that does not begin with a blank.

Each symbol of the grammar is a type whose members are the decompositions, the runs of blanks
included, and `chars` writes a member out. No two decompositions of a part are written alike
(`Decomposition.chars_injective`).
-/

set_option autoImplicit false

namespace PluralTemplate.Grammar

open Text (isBlank)

@[ext] structure Blanks where
  chars : List Char
  blank : ∀ c ∈ chars, isBlank c = true

@[ext] structure Digits where
  chars : List Char
  nonempty : chars ≠ []
  digit : ∀ c ∈ chars, c.isDigit = true

/-- The text behind a rule. -/
@[ext] structure Tail where
  chars : List Char
  start : StartsOutside isBlank chars

structure Literal where
  negative : Bool
  whole : Digits
  fraction : Option Digits

inductive LowerBound where
  | minusInfinity
  | literal (l : Literal)

/-- Infinity may be written with a plus sign. -/
inductive UpperBound where
  | infinity (plus : Bool)
  | literal (l : Literal)

/-- An item with the blanks on either side of it. -/
structure Padded (α : Type) where
  before : Blanks
  item : α
  after : Blanks

/-- A comma between blanks, and the literal behind it. -/
structure Following where
  before : Blanks
  after : Blanks
  literal : Literal

structure ListRule where
  before : Blanks
  first : Literal
  more : List Following
  after : Blanks

structure IntervalRule where
  lowerInclusive : Bool
  lower : Padded LowerBound
  upper : Padded UpperBound
  upperInclusive : Bool

inductive Rule where
  | list (r : ListRule)
  | interval (r : IntervalRule)

structure Decomposition where
  rule : Rule
  gap : Blanks
  text : Tail

/-- A character that separates or closes something in a rule. -/
def isMark (c : Char) : Bool := c == ',' || c == '}' || Part.isBracket c

/-- A character that literals and bounds are written with. -/
def isInert (c : Char) : Bool := !isBlank c && !isMark c

/-- What may stand between blanks and marks: it is written with inert characters, one at
least, and can be told from how it is written. -/
class Spelled (α : Type) where
  chars : α → List Char
  nonempty : ∀ a, chars a ≠ []
  inert : ∀ a, ∀ c ∈ chars a, isInert c = true
  injective : ∀ a b, chars a = chars b → a = b

/-! ## Literals -/

theorem isInert_of_isDigit {c : Char} (digit : c.isDigit = true) : isInert c = true := by
  have apart : ∀ d : Char, d.isDigit = false → c ≠ d := by
    rintro d noDigit rfl
    rw [digit] at noDigit
    cases noDigit
  have range : 48 ≤ c.toNat ∧ c.toNat ≤ 57 := Char.isDigit_iff_toNat.1 digit
  have high : ¬ c.toNat ≤ 13 := by omega
  simp [isInert, isMark, isBlank, Part.isBracket, high, apart ' ' rfl, apart ',' rfl, apart '}' rfl,
    apart '[' rfl, apart ']' rfl]

theorem startsOutside_point (rest : List Char) : StartsOutside Char.isDigit ('.' :: rest) :=
  startsOutside_cons rfl rest

namespace Literal

/-- The point and the digits behind it, if there is a fraction. -/
def fractionChars (l : Literal) : List Char :=
  match l.fraction with
  | none => []
  | some digits => '.' :: digits.chars

/-- The literal without its sign. -/
def body (l : Literal) : List Char := l.whole.chars ++ l.fractionChars

def signChars (negative : Bool) : List Char := if negative then ['-'] else []

def chars (l : Literal) : List Char := signChars l.negative ++ l.body

theorem startsOutside_fractionChars (l : Literal) : StartsOutside Char.isDigit l.fractionChars := by
  unfold fractionChars
  split
  · exact startsOutside_nil _
  · exact startsOutside_point _

theorem takeWhile_body (l : Literal) : l.body.takeWhile Char.isDigit = l.whole.chars :=
  takeWhile_run l.whole.digit l.startsOutside_fractionChars

theorem dropWhile_body (l : Literal) : l.body.dropWhile Char.isDigit = l.fractionChars :=
  dropWhile_run l.whole.digit l.startsOutside_fractionChars

/-- Without a sign, a literal begins with a digit. -/
theorem exists_body_eq_cons (l : Literal) :
    ∃ c rest, c.isDigit = true ∧ l.body = c :: rest := by
  obtain ⟨c, rest, cons⟩ := List.exists_cons_of_ne_nil l.whole.nonempty
  refine ⟨c, rest ++ l.fractionChars, l.whole.digit c (by rw [cons]; exact List.mem_cons_self), ?_⟩
  rw [body, cons, List.cons_append]

theorem body_ne_minus (l : Literal) (rest : List Char) : l.body ≠ '-' :: rest := by
  obtain ⟨c, others, digit, cons⟩ := l.exists_body_eq_cons
  rw [cons]
  rintro same
  obtain ⟨rfl, -⟩ := List.cons.inj same
  cases digit

theorem fraction_eq_of_fractionChars {a b : Literal}
    (same : a.fractionChars = b.fractionChars) : a.fraction = b.fraction := by
  unfold fractionChars at same
  split at same <;> split at same <;> simp_all [Digits.ext_iff]

theorem chars_injective (a b : Literal) (same : a.chars = b.chars) : a = b := by
  have signs : a.negative = b.negative ∧ a.body = b.body := by
    unfold chars signChars at same
    split at same <;> split at same
    · exact ⟨by simp_all, (List.cons.inj same).2⟩
    · exact absurd same.symm (body_ne_minus b _)
    · exact absurd same (body_ne_minus a _)
    · exact ⟨by simp_all, same⟩
  have wholes := congrArg (List.takeWhile Char.isDigit) signs.2
  have fractions := congrArg (List.dropWhile Char.isDigit) signs.2
  rw [takeWhile_body, takeWhile_body] at wholes
  rw [dropWhile_body, dropWhile_body] at fractions
  obtain ⟨negative, whole, fraction⟩ := a
  obtain ⟨_, _, _⟩ := b
  simp only [Literal.mk.injEq]
  exact ⟨signs.1, Digits.ext wholes, fraction_eq_of_fractionChars fractions⟩

/-- A literal is written with digits, a minus sign and a point. -/
theorem of_mem_chars (l : Literal) {c : Char} (member : c ∈ l.chars) :
    c = '-' ∨ c = '.' ∨ c.isDigit = true := by
  have inBody : c ∈ l.body → c = '.' ∨ c.isDigit = true := by
    intro member
    rcases List.mem_append.1 member with whole | fraction
    · exact .inr (l.whole.digit c whole)
    · unfold fractionChars at fraction
      split at fraction
      · cases fraction
      · rename_i digits _
        rcases List.mem_cons.1 fraction with point | digit
        · exact .inl point
        · exact .inr (digits.digit c digit)
  unfold chars signChars at member
  split at member
  · rcases List.mem_cons.1 member with minus | member
    · exact .inl minus
    · exact .inr (inBody member)
  · exact .inr (inBody member)

theorem isInert_of_mem_chars (l : Literal) (c : Char) (member : c ∈ l.chars) :
    isInert c = true := by
  rcases l.of_mem_chars member with rfl | rfl | digit
  · rfl
  · rfl
  · exact isInert_of_isDigit digit

theorem chars_ne_nil (l : Literal) : l.chars ≠ [] := by
  obtain ⟨c, rest, -, cons⟩ := l.exists_body_eq_cons
  unfold chars
  simp [cons]

instance : Spelled Literal := ⟨chars, chars_ne_nil, isInert_of_mem_chars, chars_injective⟩

/-- No letter stands at the start of a literal or behind its sign, so it is no infinity. -/
theorem chars_append_ne_of_letter (l : Literal) {c : Char} (letter : c.isDigit = false)
    (noMinus : c ≠ '-') (tail rest : List Char) :
    l.chars ++ tail ≠ c :: rest ∧ l.chars ++ tail ≠ '-' :: c :: rest := by
  obtain ⟨d, others, digit, cons⟩ := l.exists_body_eq_cons
  have apart : d ≠ c := by
    rintro rfl
    rw [digit] at letter
    cases letter
  have unsigned : d ≠ '-' := by
    rintro rfl
    cases digit
  unfold chars signChars
  split <;> simp [cons, apart, unsigned, Ne.symm noMinus]

theorem chars_ne_of_letter (l : Literal) {c : Char} (letter : c.isDigit = false)
    (noMinus : c ≠ '-') (rest : List Char) : l.chars ≠ c :: rest ∧ l.chars ≠ '-' :: c :: rest := by
  have unlike := l.chars_append_ne_of_letter letter noMinus [] rest
  rwa [List.append_nil] at unlike

end Literal

/-! ## Bounds -/

namespace LowerBound

def chars : LowerBound → List Char
  | minusInfinity => ['-', 'I', 'n', 'f']
  | literal l => l.chars

theorem chars_injective (a b : LowerBound) (same : a.chars = b.chars) : a = b := by
  cases a with
  | minusInfinity =>
    cases b with
    | minusInfinity => rfl
    | literal l => exact absurd same.symm (l.chars_ne_of_letter rfl (by decide) _).2
  | literal k =>
    cases b with
    | minusInfinity => exact absurd same (k.chars_ne_of_letter rfl (by decide) _).2
    | literal l => exact congrArg literal (k.chars_injective l same)

theorem isInert_of_mem_chars (a : LowerBound) (c : Char) (member : c ∈ a.chars) :
    isInert c = true := by
  cases a with
  | minusInfinity => exact List.all_eq_true.1 (by decide : ['-', 'I', 'n', 'f'].all isInert) c member
  | literal l => exact l.isInert_of_mem_chars c member

theorem chars_ne_nil (a : LowerBound) : a.chars ≠ [] := by
  cases a with
  | minusInfinity => exact List.cons_ne_nil _ _
  | literal l => exact l.chars_ne_nil

instance : Spelled LowerBound := ⟨chars, chars_ne_nil, isInert_of_mem_chars, chars_injective⟩

end LowerBound

namespace UpperBound

def chars : UpperBound → List Char
  | infinity plus => if plus then ['+', 'I', 'n', 'f'] else ['I', 'n', 'f']
  | literal l => l.chars

theorem infinity_ne_literal (plus : Bool) (l : Literal) : (infinity plus).chars ≠ l.chars := by
  cases plus with
  | false => exact (l.chars_ne_of_letter rfl (by decide) _).1.symm
  | true => exact (l.chars_ne_of_letter rfl (by decide) _).1.symm

theorem chars_injective (a b : UpperBound) (same : a.chars = b.chars) : a = b := by
  cases a with
  | infinity plus =>
    cases b with
    | infinity other => cases plus <;> cases other <;> simp_all [chars]
    | literal l => exact absurd same (infinity_ne_literal plus l)
  | literal k =>
    cases b with
    | infinity other => exact absurd same.symm (infinity_ne_literal other k)
    | literal l => exact congrArg literal (k.chars_injective l same)

theorem isInert_of_mem_chars (a : UpperBound) (c : Char) (member : c ∈ a.chars) :
    isInert c = true := by
  cases a with
  | infinity plus =>
    have all : (infinity plus).chars.all isInert = true := by cases plus <;> decide
    exact List.all_eq_true.1 all c member
  | literal l => exact l.isInert_of_mem_chars c member

theorem chars_ne_nil (a : UpperBound) : a.chars ≠ [] := by
  cases a with
  | infinity plus => cases plus <;> exact List.cons_ne_nil _ _
  | literal l => exact l.chars_ne_nil

instance : Spelled UpperBound := ⟨chars, chars_ne_nil, isInert_of_mem_chars, chars_injective⟩

end UpperBound

/-! ## Where symbols end -/

theorem isBlank_of_isMark {c : Char} (mark : isMark c = true) : isBlank c = false := by
  simp only [isMark, Part.isBracket, Bool.or_eq_true, beq_iff_eq] at mark
  rcases mark with (rfl | rfl) | rfl | rfl <;> rfl

theorem isInert_of_isMark {c : Char} (mark : isMark c = true) : isInert c = false := by
  rw [isInert, mark, Bool.not_true, Bool.and_false]

/-- An inert run ends at the blanks in front of a mark. -/
theorem startsOutside_inert (blanks : Blanks) {c : Char} (mark : isMark c = true)
    (rest : List Char) : StartsOutside isInert (blanks.chars ++ c :: rest) := by
  obtain ⟨chars, blank⟩ := blanks
  cases chars with
  | nil => exact startsOutside_cons (isInert_of_isMark mark) rest
  | cons d chars =>
    refine startsOutside_cons ?_ _
    rw [isInert, blank d List.mem_cons_self, Bool.not_true, Bool.false_and]

theorem Blanks.unique {blanks others : Blanks} {rest otherRest : List Char}
    (outside : StartsOutside isBlank rest) (otherOutside : StartsOutside isBlank otherRest)
    (same : blanks.chars ++ rest = others.chars ++ otherRest) :
    blanks = others ∧ rest = otherRest := by
  obtain ⟨runs, rests⟩ := run_unique blanks.blank outside others.blank otherOutside same
  exact ⟨Blanks.ext runs, rests⟩

/-- The blanks in front of a mark, the mark, and what follows it are determined. -/
theorem Blanks.unique_before {blanks others : Blanks} {c d : Char} {rest otherRest : List Char}
    (mark : isMark c = true) (otherMark : isMark d = true)
    (same : blanks.chars ++ c :: rest = others.chars ++ d :: otherRest) :
    blanks = others ∧ c = d ∧ rest = otherRest := by
  obtain ⟨runs, rests⟩ := Blanks.unique (startsOutside_cons (isBlank_of_isMark mark) rest)
    (startsOutside_cons (isBlank_of_isMark otherMark) otherRest) same
  exact ⟨runs, List.cons.inj rests⟩

section Spelled

variable {α : Type} [Spelled α]

theorem Spelled.startsOutside_blank (a : α) (rest : List Char) :
    StartsOutside isBlank (chars a ++ rest) := by
  refine startsOutside_append (nonempty a) (fun c member => ?_) rest
  have inert := inert a c member
  simp only [isInert, Bool.and_eq_true, Bool.not_eq_true'] at inert
  exact inert.1

theorem Spelled.unique {a b : α} {rest otherRest : List Char}
    (outside : StartsOutside isInert rest) (otherOutside : StartsOutside isInert otherRest)
    (same : chars a ++ rest = chars b ++ otherRest) : a = b ∧ rest = otherRest := by
  obtain ⟨runs, rests⟩ := run_unique (inert a) outside (inert b) otherOutside same
  exact ⟨injective a b runs, rests⟩

namespace Padded

def chars (p : Padded α) : List Char := p.before.chars ++ Spelled.chars p.item ++ p.after.chars

theorem chars_append (p : Padded α) (rest : List Char) :
    p.chars ++ rest = p.before.chars ++ (Spelled.chars p.item ++ (p.after.chars ++ rest)) := by
  simp only [chars, List.append_assoc]

theorem unique {p q : Padded α} {c d : Char} {rest otherRest : List Char}
    (mark : isMark c = true) (otherMark : isMark d = true)
    (same : p.chars ++ c :: rest = q.chars ++ d :: otherRest) :
    p = q ∧ c = d ∧ rest = otherRest := by
  rw [chars_append, chars_append] at same
  obtain ⟨befores, same⟩ := Blanks.unique (Spelled.startsOutside_blank _ _)
    (Spelled.startsOutside_blank _ _) same
  obtain ⟨items, same⟩ := Spelled.unique (startsOutside_inert _ mark _)
    (startsOutside_inert _ otherMark _) same
  obtain ⟨afters, marks, rests⟩ := Blanks.unique_before mark otherMark same
  refine ⟨?_, marks, rests⟩
  obtain ⟨before, item, after⟩ := p
  rw [Padded.mk.injEq]
  exact ⟨befores, items, afters⟩

end Padded

end Spelled

/-! ## Rules -/

namespace Following

def chars (f : Following) : List Char :=
  f.before.chars ++ [','] ++ f.after.chars ++ f.literal.chars

theorem chars_append (f : Following) (rest : List Char) :
    f.chars ++ rest = f.before.chars ++ ',' :: (f.after.chars ++ (f.literal.chars ++ rest)) := by
  simp [chars]

end Following

namespace ListRule

def chars (r : ListRule) : List Char :=
  ['{'] ++ r.before.chars ++ r.first.chars ++ r.more.flatMap Following.chars ++ r.after.chars ++
    ['}']

/-- What stands behind the first literal of a rule. -/
def ending (more : List Following) (after : Blanks) (rest : List Char) : List Char :=
  more.flatMap Following.chars ++ (after.chars ++ '}' :: rest)

theorem chars_append (r : ListRule) (rest : List Char) :
    r.chars ++ rest =
      '{' :: (r.before.chars ++ (r.first.chars ++ ending r.more r.after rest)) := by
  simp [chars, ending]

theorem ending_cons (f : Following) (more : List Following) (after : Blanks) (rest : List Char) :
    ending (f :: more) after rest =
      f.before.chars ++ ',' :: (f.after.chars ++ (f.literal.chars ++ ending more after rest)) := by
  rw [ending, List.flatMap_cons, List.append_assoc, Following.chars_append, ending]

theorem startsOutside_ending (more : List Following) (after : Blanks) (rest : List Char) :
    StartsOutside isInert (ending more after rest) := by
  cases more with
  | nil => exact startsOutside_inert after rfl rest
  | cons f more =>
    rw [ending_cons]
    exact startsOutside_inert f.before rfl _

/-- Behind blanks, a comma announces another literal and a brace the end. -/
theorem ending_unique {more others : List Following} {after otherAfter : Blanks}
    {rest otherRest : List Char} (same : ending more after rest = ending others otherAfter otherRest) :
    more = others ∧ after = otherAfter ∧ rest = otherRest := by
  induction more generalizing others with
  | nil =>
    cases others with
    | nil =>
      obtain ⟨afters, -, rests⟩ := Blanks.unique_before rfl rfl same
      exact ⟨rfl, afters, rests⟩
    | cons g others =>
      rw [ending_cons] at same
      obtain ⟨-, brace, -⟩ := Blanks.unique_before rfl rfl same
      cases brace
  | cons f more ih =>
    cases others with
    | nil =>
      rw [ending_cons] at same
      obtain ⟨-, brace, -⟩ := Blanks.unique_before rfl rfl same
      cases brace
    | cons g others =>
      rw [ending_cons, ending_cons] at same
      obtain ⟨befores, -, same⟩ := Blanks.unique_before rfl rfl same
      obtain ⟨afters, same⟩ := Blanks.unique (Spelled.startsOutside_blank f.literal _)
        (Spelled.startsOutside_blank g.literal _) same
      obtain ⟨literals, same⟩ := Spelled.unique (startsOutside_ending more after rest)
        (startsOutside_ending others otherAfter otherRest) same
      obtain ⟨rfl, closings, rests⟩ := ih same
      obtain rfl : f = g := by
        rw [Following.mk.injEq]
        exact ⟨befores, afters, literals⟩
      exact ⟨rfl, closings, rests⟩

theorem unique {r s : ListRule} {rest otherRest : List Char}
    (same : r.chars ++ rest = s.chars ++ otherRest) : r = s ∧ rest = otherRest := by
  rw [chars_append, chars_append] at same
  obtain ⟨befores, same⟩ := Blanks.unique (Spelled.startsOutside_blank r.first _)
    (Spelled.startsOutside_blank s.first _) (List.cons.inj same).2
  obtain ⟨firsts, same⟩ := Spelled.unique (startsOutside_ending _ _ _)
    (startsOutside_ending _ _ _) same
  obtain ⟨mores, afters, rests⟩ := ending_unique same
  refine ⟨?_, rests⟩
  rw [ListRule.mk.injEq]
  exact ⟨befores, firsts, mores, afters⟩

end ListRule

namespace IntervalRule

/-- The bracket opens towards the interval where the bound is included. -/
def opening (r : IntervalRule) : Char := if r.lowerInclusive then '[' else ']'

def closing (r : IntervalRule) : Char := if r.upperInclusive then ']' else '['

def chars (r : IntervalRule) : List Char :=
  [r.opening] ++ r.lower.chars ++ [','] ++ r.upper.chars ++ [r.closing]

theorem chars_append (r : IntervalRule) (rest : List Char) :
    r.chars ++ rest = r.opening :: (r.lower.chars ++ ',' :: (r.upper.chars ++ r.closing :: rest)) := by
  simp [chars]

theorem isBracket_opening (r : IntervalRule) : Part.isBracket r.opening = true := by
  unfold opening
  split <;> rfl

theorem isBracket_closing (r : IntervalRule) : Part.isBracket r.closing = true := by
  unfold closing
  split <;> rfl

theorem isMark_closing (r : IntervalRule) : isMark r.closing = true := by
  rw [isMark, r.isBracket_closing, Bool.or_true]

theorem unique {r s : IntervalRule} {rest otherRest : List Char}
    (same : r.chars ++ rest = s.chars ++ otherRest) : r = s ∧ rest = otherRest := by
  rw [chars_append, chars_append] at same
  obtain ⟨openings, same⟩ := List.cons.inj same
  obtain ⟨lowers, -, same⟩ := Padded.unique rfl rfl same
  obtain ⟨uppers, closings, rests⟩ := Padded.unique r.isMark_closing s.isMark_closing same
  have lowerInclusive : r.lowerInclusive = s.lowerInclusive := by
    unfold opening at openings
    split at openings <;> split at openings <;> simp_all
  have upperInclusive : r.upperInclusive = s.upperInclusive := by
    unfold closing at closings
    split at closings <;> split at closings <;> simp_all
  refine ⟨?_, rests⟩
  rw [IntervalRule.mk.injEq]
  exact ⟨lowerInclusive, lowers, uppers, upperInclusive⟩

end IntervalRule

namespace Rule

def chars : Rule → List Char
  | list r => r.chars
  | interval r => r.chars

theorem list_ne_interval (r : ListRule) (s : IntervalRule) (rest otherRest : List Char) :
    r.chars ++ rest ≠ s.chars ++ otherRest := by
  intro same
  rw [r.chars_append, s.chars_append] at same
  have bracket := s.isBracket_opening
  rw [← (List.cons.inj same).1] at bracket
  cases bracket

theorem unique {r s : Rule} {rest otherRest : List Char}
    (same : r.chars ++ rest = s.chars ++ otherRest) : r = s ∧ rest = otherRest := by
  cases r with
  | list r =>
    cases s with
    | list s =>
      obtain ⟨rfl, rests⟩ := ListRule.unique same
      exact ⟨rfl, rests⟩
    | interval s => exact absurd same (list_ne_interval r s rest otherRest)
  | interval r =>
    cases s with
    | list s => exact absurd same.symm (list_ne_interval s r otherRest rest)
    | interval s =>
      obtain ⟨rfl, rests⟩ := IntervalRule.unique same
      exact ⟨rfl, rests⟩

/-- No rule is the beginning of another one. -/
theorem eq_of_prefix {r s : Rule} {rest : List Char} (within : s.chars ++ rest <+: r.chars) :
    s = r ∧ rest = [] := by
  obtain ⟨behind, whole⟩ := within
  have same : s.chars ++ (rest ++ behind) = r.chars ++ [] := by
    rw [← List.append_assoc, whole, List.append_nil]
  obtain ⟨rules, rests⟩ := unique same
  exact ⟨rules, (List.append_eq_nil_iff.1 rests).1⟩

end Rule

namespace Decomposition

def chars (d : Decomposition) : List Char := d.rule.chars ++ d.gap.chars ++ d.text.chars

/-- A part is decomposed in one way at most. -/
theorem chars_injective (d e : Decomposition) (same : d.chars = e.chars) : d = e := by
  simp only [chars, List.append_assoc] at same
  obtain ⟨rules, same⟩ := Rule.unique same
  obtain ⟨gaps, texts⟩ := Blanks.unique d.text.start e.text.start same
  rw [Decomposition.mk.injEq]
  exact ⟨rules, gaps, Tail.ext texts⟩

end Decomposition

end PluralTemplate.Grammar
