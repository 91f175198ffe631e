/-!
# Readers

A reader takes what it reads off the front of a text. One that fails takes nothing, so
an alternative, an optional reader and the end of a list go on from where the failed
attempt began.
-/

set_option autoImplicit false

namespace PluralTemplate

/-- A reader gives what it has read and the text behind it, or fails. -/
abbrev Reader := StateT (List Char) Option

namespace Reader

variable {α β : Type}

/-- One character of a class. -/
def one (p : Char → Bool) : Reader Char := fun text =>
  match text with
  | [] => none
  | c :: rest => if p c then some (c, rest) else none

/-- All characters of a class up to the first other one. -/
def span (p : Char → Bool) : Reader (List Char) := fun text =>
  some (text.takeWhile p, text.dropWhile p)

/-- A given word. -/
def word (letters : List Char) : Reader Unit := fun text =>
  if letters.isPrefixOf text then some ((), text.drop letters.length) else none

theorem run_bind_iff {r : Reader α} {f : α → Reader β} {text rest : List Char} {b : β} :
    (r >>= f).run text = some (b, rest) ↔
      ∃ a between, r.run text = some (a, between) ∧ (f a).run between = some (b, rest) := by
  rw [StateT.run_bind]
  change (r.run text).bind _ = _ ↔ _
  simp only [Option.bind_eq_some_iff, Prod.exists]

theorem run_map_iff {r : Reader α} {f : α → β} {text rest : List Char} {b : β} :
    (f <$> r).run text = some (b, rest) ↔ ∃ a, r.run text = some (a, rest) ∧ f a = b := by
  rw [StateT.run_map]
  change (r.run text).map _ = _ ↔ _
  simp

theorem run_orElse_cases {r s : Reader α} {text rest : List Char} {a : α}
    (read : (r <|> s).run text = some (a, rest)) :
    r.run text = some (a, rest) ∨ s.run text = some (a, rest) := by
  change (r.run text <|> s.run text) = _ at read
  cases first : r.run text with
  | some result =>
    rw [first] at read
    exact .inl read
  | none =>
    rw [first] at read
    exact .inr read

/-! ## How much is taken -/

/-- A reader that takes a number of characters at least, if it reads anything. -/
def Takes (n : Nat) (r : Reader α) : Prop :=
  ∀ text a rest, r.run text = some (a, rest) → rest.length + n ≤ text.length

section Takes

variable {m n : Nat} {r s : Reader α}

theorem takes_pure (a : α) : Takes 0 (pure a : Reader α) := by
  intro text b rest read
  obtain ⟨-, rfl⟩ := Prod.mk.inj (Option.some.inj read)
  exact Nat.le_refl _

theorem takes_failure : Takes n (failure : Reader α) := by
  intro text a rest read
  cases read

theorem takes_one (p : Char → Bool) : Takes 1 (one p) := by
  intro text c rest read
  cases text with
  | nil => cases read
  | cons d tail =>
    change (if p d then some (d, tail) else none) = _ at read
    split at read
    · obtain ⟨-, rfl⟩ := Prod.mk.inj (Option.some.inj read)
      exact Nat.le_refl _
    · cases read

theorem takes_span (p : Char → Bool) : Takes 0 (span p) := by
  intro text run rest read
  obtain ⟨-, rfl⟩ := Prod.mk.inj (Option.some.inj read)
  exact (List.dropWhile_sublist p).length_le

theorem Takes.bind {f : α → Reader β} (first : Takes m r) (second : ∀ a, Takes n (f a)) :
    Takes (m + n) (r >>= f) := by
  intro text b rest read
  obtain ⟨a, between, firstRead, secondRead⟩ := run_bind_iff.1 read
  have atFirst := first text a between firstRead
  have atSecond := second a between b rest secondRead
  omega

theorem Takes.map (takes : Takes n r) (f : α → β) : Takes n (f <$> r) := by
  intro text b rest read
  obtain ⟨a, read, -⟩ := run_map_iff.1 read
  exact takes text a rest read

theorem Takes.discard (takes : Takes n r) : Takes n (discard r) := takes.map fun _ => ()

theorem Takes.orElse (first : Takes n r) (second : Takes n s) : Takes n (r <|> s) := by
  intro text a rest read
  rcases run_orElse_cases read with firstRead | secondRead
  · exact first text a rest firstRead
  · exact second text a rest secondRead

theorem Takes.optional (takes : Takes n r) : Takes 0 (optional r) := by
  have less : Takes 0 r := fun text a rest read => by
    have atLeast := takes text a rest read
    omega
  exact (less.map some).orElse (takes_pure none)

end Takes

/-! ## Lists -/

/-- What a reader that takes something reads over and over, up to where it fails. -/
def repeated (next : Reader α) (takes : Takes 1 next) (text : List Char) : List α × List Char :=
  match _read : next.run text with
  | none => ([], text)
  | some (a, rest) =>
    let (more, last) := repeated next takes rest
    (a :: more, last)
termination_by text.length
decreasing_by exact takes text a rest _read

/-- One item at least, and more of them behind separators. A separator without an item
behind it is left. -/
def separated (item : Reader α) (separator : Reader Unit) (takes : Takes 1 (separator *> item)) :
    Reader (List α) := do
  let first ← item
  let more ← fun text => some (repeated (separator *> item) takes text)
  return first :: more

end Reader

end PluralTemplate
