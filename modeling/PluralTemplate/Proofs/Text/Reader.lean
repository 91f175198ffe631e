import PluralTemplate.Text.Reader

/-!
# What readers take

A text begins with a run of characters of a class, and behind the longest such run stands none
of them; this fixes the run and what follows it (`run_unique`). A reader reads a symbol of a
grammar when it takes members of the symbol only, and takes a member as a whole where an end
stands behind it (`Reader.Reads`). Reading a symbol over and over reads its sequences
(`repeated_sound`, `repeated_complete`).
-/

set_option autoImplicit false

namespace PluralTemplate

/-- A text that does not begin with a character of a class. -/
def StartsOutside (p : Char → Bool) (text : List Char) : Prop :=
  ∀ c, text.head? = some c → p c = false

section Runs

variable {p : Char → Bool} {run rest : List Char}

theorem startsOutside_nil (p : Char → Bool) : StartsOutside p [] := by
  intro c head
  cases head

theorem startsOutside_cons {c : Char} (outside : p c = false) (rest : List Char) :
    StartsOutside p (c :: rest) := by
  intro d head
  obtain rfl : c = d := Option.some.inj head
  exact outside

theorem startsOutside_append {word : List Char} (nonempty : word ≠ [])
    (outside : ∀ c ∈ word, p c = false) (rest : List Char) : StartsOutside p (word ++ rest) := by
  obtain ⟨c, tail, rfl⟩ := List.exists_cons_of_ne_nil nonempty
  exact startsOutside_cons (outside c List.mem_cons_self) _

theorem StartsOutside.mono {q : Char → Bool} {text : List Char} (outside : StartsOutside q text)
    (narrower : ∀ c, p c = true → q c = true) : StartsOutside p text := by
  intro c head
  rw [Bool.eq_false_iff]
  intro inside
  have outer := outside c head
  rw [narrower c inside] at outer
  cases outer

theorem startsOutside_dropWhile (p : Char → Bool) (text : List Char) :
    StartsOutside p (text.dropWhile p) := by
  intro c head
  have kept := List.head?_dropWhile_not p text
  rw [head] at kept
  simpa using kept

theorem takeWhile_run (inside : ∀ c ∈ run, p c = true) (outside : StartsOutside p rest) :
    (run ++ rest).takeWhile p = run := by
  rw [List.takeWhile_append_of_pos inside]
  cases rest with
  | nil => simp
  | cons c tail => simp [outside c rfl]

theorem dropWhile_run (inside : ∀ c ∈ run, p c = true) (outside : StartsOutside p rest) :
    (run ++ rest).dropWhile p = rest := by
  rw [List.dropWhile_append_of_pos inside]
  cases rest with
  | nil => rfl
  | cons c tail => simp [outside c rfl]

/-- The run at the start of a text and what follows it are determined by the text. -/
theorem run_unique {otherRun otherRest : List Char} (inside : ∀ c ∈ run, p c = true)
    (outside : StartsOutside p rest) (otherInside : ∀ c ∈ otherRun, p c = true)
    (otherOutside : StartsOutside p otherRest) (same : run ++ rest = otherRun ++ otherRest) :
    run = otherRun ∧ rest = otherRest := by
  have runs := congrArg (List.takeWhile p) same
  have rests := congrArg (List.dropWhile p) same
  rw [takeWhile_run inside outside, takeWhile_run otherInside otherOutside] at runs
  rw [dropWhile_run inside outside, dropWhile_run otherInside otherOutside] at rests
  exact ⟨runs, rests⟩

end Runs

namespace Reader

variable {α β : Type} {text rest : List Char}

/-! ## One reading after another -/

theorem run_bind_of {r : Reader α} {a : α} (read : r.run text = some (a, rest))
    (f : α → Reader β) : (r >>= f).run text = (f a).run rest := by
  rw [StateT.run_bind, read]
  rfl

theorem run_bind_none {r : Reader α} (failed : r.run text = none) (f : α → Reader β) :
    (r >>= f).run text = none := by
  rw [StateT.run_bind, failed]
  rfl

theorem run_pure_iff {a b : α} : (pure a : Reader α).run text = some (b, rest) ↔
    a = b ∧ text = rest := by
  rw [StateT.run_pure]
  change some _ = _ ↔ _
  simp

theorem run_map_none {r : Reader α} (failed : r.run text = none) (f : α → β) :
    (f <$> r).run text = none := by
  rw [StateT.run_map, failed]
  rfl

theorem run_discard_iff {r : Reader α} {u : Unit} :
    (discard r).run text = some (u, rest) ↔ ∃ a, r.run text = some (a, rest) := by
  change ((fun _ => ()) <$> r).run text = _ ↔ _
  simp only [run_map_iff, and_true]

theorem run_discard_of {r : Reader α} {a : α} (read : r.run text = some (a, rest)) :
    (discard r).run text = some ((), rest) :=
  run_discard_iff.2 ⟨a, read⟩

theorem run_discard_none {r : Reader α} (failed : r.run text = none) :
    (discard r).run text = none :=
  run_map_none failed fun _ => ()

theorem run_lift_iff {result : Option α} {a : α} :
    (liftM result : Reader α).run text = some (a, rest) ↔ result = some a ∧ text = rest := by
  change result.bind (fun b => some (b, text)) = _ ↔ _
  cases result with
  | none => simp
  | some b => simp

/-! ## Alternatives -/

theorem run_orElse (r s : Reader α) (text : List Char) :
    (r <|> s).run text = (r.run text <|> s.run text) := rfl

theorem run_orElse_of_some {r : Reader α} {a : α} (read : r.run text = some (a, rest))
    (s : Reader α) : (r <|> s).run text = some (a, rest) := by
  rw [run_orElse, read]
  rfl

theorem run_orElse_of_none {r : Reader α} (failed : r.run text = none) (s : Reader α) :
    (r <|> s).run text = s.run text := by
  rw [run_orElse, failed]
  rfl

theorem run_optional_of_some {r : Reader α} {a : α} (read : r.run text = some (a, rest)) :
    (optional r).run text = some (some a, rest) :=
  run_orElse_of_some (run_map_iff.2 ⟨a, read, rfl⟩) _

theorem run_optional_of_none {r : Reader α} (failed : r.run text = none) :
    (optional r).run text = some (none, text) := by
  exact (run_orElse_of_none (run_map_none failed some) _).trans rfl

theorem run_optional_cases {r : Reader α} {o : Option α}
    (read : (optional r).run text = some (o, rest)) :
    (∃ a, r.run text = some (a, rest) ∧ some a = o) ∨ (o = none ∧ text = rest) := by
  rcases run_orElse_cases read with present | absent
  · exact .inl (run_map_iff.1 present)
  · exact .inr ⟨(run_pure_iff.1 absent).1.symm, (run_pure_iff.1 absent).2⟩

/-! ## Characters -/

variable {p : Char → Bool}

theorem run_one_cons {c : Char} (inside : p c = true) (rest : List Char) :
    (one p).run (c :: rest) = some (c, rest) := by
  change (if p c then some (c, rest) else none) = _
  rw [if_pos inside]

theorem run_one_none (outside : StartsOutside p text) : (one p).run text = none := by
  cases text with
  | nil => rfl
  | cons c rest =>
    change (if p c then some (c, rest) else none) = _
    rw [outside c rfl]
    rfl

theorem run_one_iff {c : Char} :
    (one p).run text = some (c, rest) ↔ p c = true ∧ c :: rest = text := by
  constructor
  · intro read
    cases text with
    | nil => cases read
    | cons d tail =>
      change (if p d then some (d, tail) else none) = _ at read
      split at read
      · rename_i inside
        obtain ⟨rfl, rfl⟩ := Prod.mk.inj (Option.some.inj read)
        exact ⟨inside, rfl⟩
      · cases read
  · rintro ⟨inside, rfl⟩
    exact run_one_cons inside rest

theorem run_span_run {run : List Char} (inside : ∀ c ∈ run, p c = true)
    (outside : StartsOutside p rest) : (span p).run (run ++ rest) = some (run, rest) := by
  change some ((run ++ rest).takeWhile p, (run ++ rest).dropWhile p) = _
  rw [takeWhile_run inside outside, dropWhile_run inside outside]

theorem run_span_sound {run : List Char} (read : (span p).run text = some (run, rest)) :
    (∀ c ∈ run, p c = true) ∧ StartsOutside p rest ∧ run ++ rest = text := by
  obtain ⟨rfl, rfl⟩ := Prod.mk.inj (Option.some.inj read)
  exact ⟨fun c member => List.all_eq_true.1 List.all_takeWhile c member,
    startsOutside_dropWhile p text, List.takeWhile_append_dropWhile⟩

theorem run_word_append (letters rest : List Char) :
    (word letters).run (letters ++ rest) = some ((), rest) := by
  change (if letters.isPrefixOf (letters ++ rest) then
    some ((), (letters ++ rest).drop letters.length) else none) = _
  simp

theorem run_word_sound {letters : List Char} {u : Unit}
    (read : (word letters).run text = some (u, rest)) : letters ++ rest = text := by
  change (if letters.isPrefixOf text then some ((), text.drop letters.length) else none) = _ at read
  split at read
  · rename_i starts
    obtain ⟨behind, rfl⟩ := List.isPrefixOf_iff_prefix.1 starts
    obtain ⟨-, rfl⟩ := Prod.mk.inj (Option.some.inj read)
    rw [List.drop_left]
  · cases read

theorem run_word_none {letters : List Char} (absent : ∀ rest, letters ++ rest ≠ text) :
    (word letters).run text = none := by
  cases read : (word letters).run text with
  | none => rfl
  | some result => exact absurd (run_word_sound read) (absent result.2)

/-! ## Symbols of a grammar -/

variable {γ δ : Type}

/-- A reader reads a symbol of a grammar, whose members `chars` writes out: it takes nothing
but a member, and it takes a member as a whole if an end stands behind it. -/
structure Reads (r : Reader α) (chars : γ → List Char) (value : γ → α)
    (Ends : List Char → Prop) : Prop where
  sound : ∀ {text rest : List Char} {a : α}, r.run text = some (a, rest) →
    ∃ g, chars g ++ rest = text ∧ value g = a
  complete : ∀ (g : γ) {rest : List Char}, Ends rest →
    r.run (chars g ++ rest) = some (value g, rest)

section Lists

variable {next : Reader α} {takes : Takes 1 next} {chars : γ → List Char} {value : γ → α}
  {Ends : List Char → Prop}

theorem repeated_of_none (failed : next.run text = none) :
    repeated next takes text = ([], text) := by
  rw [repeated]
  split
  · rfl
  · rename_i read
    rw [failed] at read
    cases read

theorem repeated_of_some {a : α} (read : next.run text = some (a, rest)) :
    repeated next takes text =
      (a :: (repeated next takes rest).1, (repeated next takes rest).2) := by
  rw [repeated]
  split
  · rename_i failed
    rw [read] at failed
    cases failed
  · rename_i again
    rw [read] at again
    obtain ⟨rfl, rfl⟩ := Prod.mk.inj (Option.some.inj again)
    rfl

theorem repeated_sound (reads : Reads next chars value Ends) (text : List Char) :
    ∃ gs : List γ, gs.flatMap chars ++ (repeated next takes text).2 = text ∧
      gs.map value = (repeated next takes text).1 := by
  fun_induction repeated next takes text with
  | case1 text failed => exact ⟨[], rfl, rfl⟩
  | case2 text a rest read more last again ih =>
    obtain ⟨g, taken, valued⟩ := reads.sound read
    obtain ⟨gs, behind, values⟩ := ih
    rw [again] at behind values
    refine ⟨g :: gs, ?_, ?_⟩
    · rw [List.flatMap_cons, List.append_assoc, behind, taken]
    · rw [List.map_cons, valued, values]

/-- A sequence is read up to its end if each member of it ends where the next one begins. -/
theorem repeated_complete (reads : Reads next chars value Ends)
    (between : ∀ g rest, Ends (chars g ++ rest)) (gs : List γ) (ends : Ends rest)
    (failed : next.run rest = none) :
    repeated next takes (gs.flatMap chars ++ rest) = (gs.map value, rest) := by
  induction gs with
  | nil => exact repeated_of_none failed
  | cons g gs ih =>
    have behind : Ends (gs.flatMap chars ++ rest) := by
      cases gs with
      | nil => exact ends
      | cons h hs =>
        rw [List.flatMap_cons, List.append_assoc]
        exact between h _
    rw [List.flatMap_cons, List.append_assoc, repeated_of_some (reads.complete g behind), ih,
      List.map_cons]

variable {item : Reader α} {itemChars : δ → List Char} {itemValue : δ → α}
  {itemEnds : List Char → Prop} {separator : Reader Unit}

theorem run_separated (both : Takes 1 (separator *> item)) (text : List Char) :
    (separated item separator both).run text = (item.run text).map fun read =>
      (read.1 :: (repeated (separator *> item) both read.2).1,
        (repeated (separator *> item) both read.2).2) := by
  cases read : item.run text with
  | none => exact run_bind_none read _
  | some result => exact run_bind_of read _

theorem separated_sound (items : Reads item itemChars itemValue itemEnds)
    (following : Reads (separator *> item) chars value Ends)
    {both : Takes 1 (separator *> item)} {values : List α}
    (read : (separated item separator both).run text = some (values, rest)) :
    ∃ (first : δ) (more : List γ), itemChars first ++ (more.flatMap chars ++ rest) = text ∧
      itemValue first :: more.map value = values := by
  rw [run_separated] at read
  obtain ⟨⟨a, between⟩, readFirst, result⟩ := Option.map_eq_some_iff.1 read
  obtain ⟨rfl, rfl⟩ := Prod.mk.inj result
  obtain ⟨first, taken, valued⟩ := items.sound readFirst
  obtain ⟨more, behind, moreValues⟩ := repeated_sound following between
  exact ⟨first, more, by rw [behind, taken], by rw [valued, moreValues]⟩

theorem separated_complete (items : Reads item itemChars itemValue itemEnds)
    (following : Reads (separator *> item) chars value Ends)
    (between : ∀ g rest, Ends (chars g ++ rest)) (ends : Ends rest)
    (failed : (separator *> item).run rest = none) (both : Takes 1 (separator *> item))
    (first : δ) (more : List γ)
    (behind : itemEnds (more.flatMap chars ++ rest)) :
    (separated item separator both).run (itemChars first ++ (more.flatMap chars ++ rest)) =
      some (itemValue first :: more.map value, rest) := by
  rw [run_separated, items.complete first behind, Option.map_some,
    repeated_complete following between more ends failed]

end Lists

end Reader

end PluralTemplate
