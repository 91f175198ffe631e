import Mathlib.Order.Bounds.Basic
import Mathlib.Order.MinMax
import PluralTemplate.Text.Distance

/-!
# The edit distance is the least number of edits

An edit inserts, removes or replaces one character of a text, wherever it stands. Edits one after
another can touch a place again, so how many are needed is told by alignments: texts are gone
through side by side, and at each character it is kept, replaced, inserted or removed. An alignment
is a sequence of as many edits (`Aligned.edits`), and an edit in front of an alignment makes it at
most one longer (`Edit.atMost`), so the least numbers of the two are equal.

A row of the computation holds the least alignments of one text with all beginnings of another one,
and one more character at the end of the text gives the next row (`Row.next`). Alignments go on at
the front and rows at the end, so the texts of a row are given backwards; edits do not care
(`Edits.reverse`).
-/

set_option autoImplicit false

namespace PluralTemplate.Text

variable {m n : Nat} {c d : Char} {s t u : List Char}

/-! ## Edits -/

/-- One character is inserted, removed or replaced. -/
inductive Edit : List Char → List Char → Prop
  | insert (before : List Char) (c : Char) (behind : List Char) :
    Edit (before ++ behind) (before ++ c :: behind)
  | remove (before : List Char) (c : Char) (behind : List Char) :
    Edit (before ++ c :: behind) (before ++ behind)
  | replace (before : List Char) (c d : Char) (behind : List Char) :
    Edit (before ++ c :: behind) (before ++ d :: behind)

/-- So many edits, one after another, turn one text into another. -/
inductive Edits : Nat → List Char → List Char → Prop
  | nothing (s : List Char) : Edits 0 s s
  | edit {n : Nat} {s t u : List Char} (first : Edit s t) (rest : Edits n t u) :
    Edits (n + 1) s u

theorem Edit.cons (edit : Edit s t) (c : Char) : Edit (c :: s) (c :: t) := by
  cases edit with
  | insert before d behind => exact .insert (c :: before) d behind
  | remove before d behind => exact .remove (c :: before) d behind
  | replace before d e behind => exact .replace (c :: before) d e behind

theorem Edits.cons (edits : Edits n s t) (c : Char) : Edits n (c :: s) (c :: t) := by
  induction edits with
  | nothing s => exact .nothing (c :: s)
  | edit first _ ih => exact .edit (first.cons c) ih

theorem Edit.reverse (edit : Edit s t) : Edit s.reverse t.reverse := by
  cases edit with
  | insert before c behind =>
    simpa using Edit.insert behind.reverse c before.reverse
  | remove before c behind =>
    simpa using Edit.remove behind.reverse c before.reverse
  | replace before c d behind =>
    simpa using Edit.replace behind.reverse c d before.reverse

/-- Texts that are written backwards are as many edits apart. -/
theorem Edits.reverse (edits : Edits n s t) : Edits n s.reverse t.reverse := by
  induction edits with
  | nothing s => exact .nothing s.reverse
  | edit first _ ih => exact .edit first.reverse ih

/-! ## Alignments -/

/-- Two texts side by side, with so many characters replaced, inserted or removed. -/
inductive Aligned : Nat → List Char → List Char → Prop
  | nil : Aligned 0 [] []
  | keep (c : Char) {n : Nat} {s t : List Char} (rest : Aligned n s t) :
    Aligned n (c :: s) (c :: t)
  | replace (c d : Char) {n : Nat} {s t : List Char} (rest : Aligned n s t) :
    Aligned (n + 1) (c :: s) (d :: t)
  | insert (d : Char) {n : Nat} {s t : List Char} (rest : Aligned n s t) :
    Aligned (n + 1) s (d :: t)
  | remove (c : Char) {n : Nat} {s t : List Char} (rest : Aligned n s t) :
    Aligned (n + 1) (c :: s) t

/-- Some alignment costs no more than this. -/
def AlignedWithin (n : Nat) (s t : List Char) : Prop := ∃ k ≤ n, Aligned k s t

/-- An alignment edits one place after another. -/
theorem Aligned.edits (aligned : Aligned n s t) : Edits n s t := by
  induction aligned with
  | nil => exact .nothing []
  | keep c _ ih => exact ih.cons c
  | @replace c d _ s _ _ ih => exact .edit (.replace [] c d s) (ih.cons d)
  | @insert d _ s _ _ ih => exact .edit (.insert [] d s) (ih.cons d)
  | @remove c _ s _ _ ih => exact .edit (.remove [] c s) ih

theorem Aligned.refl (s : List Char) : Aligned 0 s s := by
  induction s with
  | nil => exact .nil
  | cons c _ ih => exact .keep c ih

theorem Aligned.within (aligned : Aligned n s t) {bound : Nat} (le : n ≤ bound) :
    AlignedWithin bound s t :=
  ⟨n, le, aligned⟩

theorem AlignedWithin.mono (within : AlignedWithin m s t) (le : m ≤ n) : AlignedWithin n s t := by
  obtain ⟨k, few, aligned⟩ := within
  exact ⟨k, Nat.le_trans few le, aligned⟩

theorem AlignedWithin.keep (within : AlignedWithin n s t) (c : Char) :
    AlignedWithin n (c :: s) (c :: t) := by
  obtain ⟨k, few, aligned⟩ := within
  exact ⟨k, few, .keep c aligned⟩

theorem AlignedWithin.replace (within : AlignedWithin n s t) (c d : Char) :
    AlignedWithin (n + 1) (c :: s) (d :: t) := by
  obtain ⟨k, few, aligned⟩ := within
  exact ⟨k + 1, Nat.succ_le_succ few, .replace c d aligned⟩

theorem AlignedWithin.insert (within : AlignedWithin n s t) (d : Char) :
    AlignedWithin (n + 1) s (d :: t) := by
  obtain ⟨k, few, aligned⟩ := within
  exact ⟨k + 1, Nat.succ_le_succ few, .insert d aligned⟩

theorem AlignedWithin.remove (within : AlignedWithin n s t) (c : Char) :
    AlignedWithin (n + 1) (c :: s) t := by
  obtain ⟨k, few, aligned⟩ := within
  exact ⟨k + 1, Nat.succ_le_succ few, .remove c aligned⟩

/-- What an alignment does with the first character, behind those that it inserts before it, tells
how another text can be aligned at the cost of one more. -/
theorem AlignedWithin.of_first
    (kept : ∀ n u, Aligned n t u → AlignedWithin (n + 1) s (c :: u))
    (replaced : ∀ n d u, Aligned n t u → AlignedWithin (n + 2) s (d :: u))
    (removed : ∀ n u, Aligned n t u → AlignedWithin (n + 2) s u)
    (aligned : Aligned n (c :: t) u) : AlignedWithin (n + 1) s u := by
  generalize whole : c :: t = text at aligned
  induction aligned with
  | nil => cases whole
  | keep e rest =>
    cases whole
    exact kept _ _ rest
  | replace e d rest =>
    cases whole
    exact replaced _ d _ rest
  | insert d _ ih => exact (ih whole).insert d
  | remove e rest =>
    cases whole
    exact removed _ _ rest

/-- An edit in front of an alignment is worth one more at most. -/
theorem Edit.atMost (edit : Edit s t) (aligned : Aligned n t u) : AlignedWithin (n + 1) s u := by
  -- Behind the same first characters, the edit is in the part that follows them.
  have behind : ∀ {x y : List Char}, (∀ n u, Aligned n y u → AlignedWithin (n + 1) x u) →
      ∀ (before : List Char) n u, Aligned n (before ++ y) u →
        AlignedWithin (n + 1) (before ++ x) u := by
    intro x y atMost before
    induction before with
    | nil => exact atMost
    | cons c before ih =>
      intro n u
      exact .of_first (fun n u rest => (ih n u rest).keep c)
        (fun n d u rest => (ih n u rest).replace c d) fun n u rest => (ih n u rest).remove c
  cases edit with
  | insert before c rest =>
    refine behind (fun n u => ?_) before n u aligned
    exact .of_first (fun n u rest => (rest.insert c).within (Nat.le_refl _))
      (fun n d u rest => (rest.insert d).within (Nat.le_succ _)) fun n u rest =>
        rest.within (Nat.le_add_right n 2)
  | remove before c rest =>
    exact behind (fun n u rest => (rest.remove c).within (Nat.le_refl _)) before n u aligned
  | replace before c d rest =>
    refine behind (fun n u => ?_) before n u aligned
    exact .of_first (fun n u rest => (rest.replace c d).within (Nat.le_refl _))
      (fun n e u rest => (rest.replace c e).within (Nat.le_succ _)) fun n u rest =>
        (rest.remove c).within (Nat.le_succ _)

theorem Edits.alignedWithin (edits : Edits n s t) : AlignedWithin n s t := by
  induction edits with
  | nothing s => exact (Aligned.refl s).within (Nat.le_refl 0)
  | edit first _ ih =>
    obtain ⟨k, few, aligned⟩ := ih
    exact (first.atMost aligned).mono (Nat.succ_le_succ few)

/-! ## Least alignments -/

/-- The cost of a best alignment. -/
def LeastAligned (s t : List Char) (n : Nat) : Prop := IsLeast {k | Aligned k s t} n

/-- Fewer edits than a best alignment has will not do, be they done in any order. -/
theorem LeastAligned.isLeast_edits (least : LeastAligned s t n) : IsLeast {k | Edits k s t} n := by
  refine ⟨least.1.edits, fun k edits => ?_⟩
  obtain ⟨j, few, aligned⟩ := Edits.alignedWithin edits
  exact Nat.le_trans (least.2 aligned) few

theorem leastAligned_nil_left (t : List Char) : LeastAligned [] t t.length := by
  induction t with
  | nil => exact ⟨.nil, fun _ _ => Nat.zero_le _⟩
  | cons d t ih =>
    refine ⟨.insert d ih.1, fun k aligned => ?_⟩
    cases aligned with
    | insert _ rest => exact Nat.succ_le_succ (ih.2 rest)

theorem leastAligned_nil_right (s : List Char) : LeastAligned s [] s.length := by
  induction s with
  | nil => exact ⟨.nil, fun _ _ => Nat.zero_le _⟩
  | cons c s ih =>
    refine ⟨.remove c ih.1, fun k aligned => ?_⟩
    cases aligned with
    | remove _ rest => exact Nat.succ_le_succ (ih.2 rest)

/-- The last step of a best alignment is the best of the three that there are. -/
theorem LeastAligned.cons {left above diagonal : Nat} (inserted : LeastAligned (c :: s) t left)
    (removed : LeastAligned s (d :: t) above) (both : LeastAligned s t diagonal) :
    LeastAligned (c :: s) (d :: t)
      (min (min (left + 1) (above + 1)) (diagonal + if c = d then 0 else 1)) := by
  constructor
  · rcases min_choice (min (left + 1) (above + 1)) (diagonal + if c = d then 0 else 1)
      with aside | through
    · rw [aside]
      rcases min_choice (left + 1) (above + 1) with inserts | removes
      · rw [inserts]
        exact .insert d inserted.1
      · rw [removes]
        exact .remove c removed.1
    · rw [through]
      split
      · rename_i same
        rw [← same]
        exact .keep c both.1
      · exact .replace c d both.1
  · intro k aligned
    cases aligned with
    | keep _ rest =>
      have atLeast := both.2 rest
      rw [if_pos rfl]
      omega
    | replace _ _ rest =>
      have atLeast := both.2 rest
      split <;> omega
    | insert _ rest =>
      have atLeast := inserted.2 rest
      omega
    | remove _ rest =>
      have atLeast := removed.2 rest
      omega

/-! ## Rows -/

/-- A row from one of its entries on: the least alignments of a text with `seen` and with all its
continuations into the target. The text and `seen` are given backwards. -/
inductive Row (text : List Char) : List Char → List Char → List Nat → Prop
  | last {seen : List Char} {n : Nat} (entry : LeastAligned text seen n) : Row text seen [] [n]
  | more {seen target : List Char} {d : Char} {n : Nat} {row : List Nat}
    (entry : LeastAligned text seen n) (rest : Row text (d :: seen) target row) :
    Row text seen (d :: target) (n :: row)

variable {seen target text : List Char} {row : List Nat}

theorem Row.exists_head (whole : Row text seen target row) :
    ∃ n rest, row = n :: rest ∧ LeastAligned text seen n := by
  cases whole with
  | last entry => exact ⟨_, _, rfl, entry⟩
  | more entry _ => exact ⟨_, _, rfl, entry⟩

/-- The last entry is for the whole target. -/
theorem Row.getLastD (whole : Row text seen target row) (default : Nat) :
    LeastAligned text (target.reverse ++ seen) (row.getLastD default) := by
  induction whole generalizing default with
  | last entry => exact entry
  | @more _ _ d n _ _ _ ih =>
    rw [List.getLastD_cons, List.reverse_cons, List.append_assoc]
    exact ih n

/-- Nothing is aligned with a text by inserting it. -/
theorem row_nil (seen target : List Char) :
    Row [] seen target (List.range' seen.length (target.length + 1)) := by
  induction target generalizing seen with
  | nil => exact .last (leastAligned_nil_left seen)
  | cons d target ih => exact .more (leastAligned_nil_left seen) (ih (d :: seen))

/-- The rest of the row of a text with one more character follows from the row of the text. -/
theorem Row.nextEntries {left : Nat} (above : Row text seen target row)
    (entry : LeastAligned (c :: text) seen left) :
    Row (c :: text) seen target (left :: Text.nextEntries c left row target) := by
  induction above generalizing left with
  | last _ => exact .last entry
  | more diagonal rest ih =>
    obtain ⟨n, others, rfl, next⟩ := rest.exists_head
    exact .more entry (ih (.cons entry next diagonal))

theorem Row.next (above : Row text [] target row) (c : Char) :
    Row (c :: text) [] target (nextRow target row c) := by
  obtain ⟨n, rest, rfl, entry⟩ := above.exists_head
  have length : n = text.length := entry.unique (leastAligned_nil_right text)
  refine above.nextEntries ?_
  rw [List.headD_cons, length]
  exact leastAligned_nil_right (c :: text)

theorem Row.foldl (start : Row text [] target row) (source : List Char) :
    Row (source.reverse ++ text) [] target (source.foldl (nextRow target) row) := by
  induction source generalizing text row with
  | nil => exact start
  | cons c source ih => simpa using ih (start.next c)

/-- The edit distance of two texts is the least number of edits that turn one into the other. -/
theorem isLeast_distance (source target : List Char) :
    IsLeast {n | Edits n source target} (distance source target) := by
  have first : Row [] [] target (List.range (target.length + 1)) := by
    rw [List.range_eq_range']
    exact row_nil [] target
  have least := (first.foldl source).getLastD 0
  rw [List.append_nil, List.append_nil] at least
  have backwards := least.isLeast_edits
  have turned : {n | Edits n source target} = {n | Edits n source.reverse target.reverse} := by
    ext n
    refine ⟨Edits.reverse, fun edits => ?_⟩
    simpa using edits.reverse
  rw [turned]
  exact backwards

end PluralTemplate.Text
