import PluralTemplate.Text.Bytes
import PluralTemplate.Text.Split

/-!
# Cutting at the first occurrence

`Cut` says what the pieces of a text are without saying how they are found: the text is cut at
the first occurrence of the delimiter and the rest is cut further, until the delimiter does not
occur any more. An occurrence is the first one if there is none in the text up to, but without,
its last character; so occurrences that overlap the first one are left alone.

The splitter cuts in this sense (`cut_pieces`). What joins the pieces again, what they cannot
contain, and where a search for the delimiter ends are read off the relation.
-/

set_option autoImplicit false

namespace PluralTemplate.Text

/-- A text and its pieces around a delimiter. The empty delimiter occurs everywhere, so it has
no first occurrence, and it leaves a text whole. -/
inductive Cut (delimiter : List Char) : List Char → List (List Char) → Prop
  | whole {text : List Char} (free : delimiter ≠ [] → ¬ delimiter <:+: text) :
    Cut delimiter text [text]
  | first {before rest : List Char} {parts : List (List Char)}
    (earliest : ¬ delimiter <:+: before ++ delimiter.dropLast) (cut : Cut delimiter rest parts) :
    Cut delimiter (before ++ delimiter ++ rest) (before :: parts)

section

variable {delimiter text rest piece : List Char} {parts : List (List Char)}

/-! ## What the splitter finds -/

/-- A character in front, where no occurrence begins, belongs to the first piece. -/
theorem Cut.cons {c : Char} (cut : Cut delimiter rest parts)
    (notHere : ¬ delimiter <+: c :: rest) :
    Cut delimiter (c :: rest) (parts.modifyHead (c :: ·)) := by
  cases cut with
  | whole free =>
    refine .whole fun nonempty within => ?_
    rcases List.infix_cons_iff.1 within with here | later
    · exact notHere here
    · exact free nonempty later
  | @first before rest parts earliest cut =>
    change Cut delimiter (c :: before ++ delimiter ++ rest) ((c :: before) :: parts)
    refine .first (fun within => ?_) cut
    rcases List.infix_cons_iff.1 within with here | later
    · have longer : before ++ delimiter.dropLast <+: before ++ delimiter ++ rest :=
        ((List.prefix_append_right_inj before).2 (List.dropLast_prefix delimiter)).trans
          (List.prefix_append _ _)
      exact notHere (here.trans ((List.prefix_cons_inj c).2 longer))
    · exact earliest later

theorem cut_piecesAfter (nonempty : delimiter ≠ []) (skip : Nat) (text : List Char) :
    Cut delimiter (text.drop skip) (piecesAfter delimiter skip text) := by
  fun_induction piecesAfter delimiter skip text with
  | case1 skip =>
    rw [List.drop_nil]
    exact .whole fun _ within => nonempty (List.infix_nil.1 within)
  | case2 skip c rest ih => exact ih
  | case3 c rest here ih =>
    obtain ⟨behind, split⟩ := List.isPrefixOf_iff_prefix.1 here
    have left : rest.drop (delimiter.length - 1) = behind := by
      have dropped := congrArg (List.drop delimiter.length) split
      obtain ⟨d, more, rfl⟩ := List.exists_cons_of_ne_nil nonempty
      simpa using dropped.symm
    rw [left] at ih
    rw [List.drop_zero, ← split]
    -- An occurrence in front of all others is the first: there is no room for an earlier one.
    change Cut delimiter ([] ++ delimiter ++ behind) _
    refine .first (fun within => ?_) ih
    have shorter := within.length_le
    have positive := List.length_pos_iff.2 nonempty
    rw [List.nil_append, List.length_dropLast] at shorter
    omega
  | case4 c rest notHere ih =>
    rw [List.isPrefixOf_iff_prefix] at notHere
    exact ih.cons notHere

/-- The splitter cuts a text at the first occurrence of the delimiter, and goes on behind it. -/
theorem cut_pieces (delimiter text : List Char) : Cut delimiter text (pieces delimiter text) := by
  unfold pieces
  split
  · rename_i empty
    exact .whole fun nonempty => absurd (List.isEmpty_iff.1 empty) nonempty
  · rename_i nonempty
    exact cut_piecesAfter (fun empty => nonempty (List.isEmpty_iff.2 empty)) 0 text

/-! ## What follows for the pieces -/

theorem Cut.exists_cons (cut : Cut delimiter text parts) :
    ∃ piece more, parts = piece :: more := by
  cases cut with
  | whole _ => exact ⟨_, _, rfl⟩
  | first _ _ => exact ⟨_, _, rfl⟩

/-- A text begins with its first piece. -/
theorem Cut.exists_behind (cut : Cut delimiter text (piece :: parts)) :
    ∃ behind, piece ++ behind = text := by
  cases cut with
  | whole _ => exact ⟨[], List.append_nil _⟩
  | first _ _ => exact ⟨_, (List.append_assoc _ _ _).symm⟩

/-- Nothing is lost but the delimiters. -/
theorem Cut.intercalate_eq (cut : Cut delimiter text parts) :
    delimiter.intercalate parts = text := by
  induction cut with
  | whole _ => exact List.intercalate_singleton
  | first _ cut ih =>
    obtain ⟨piece, more, rfl⟩ := cut.exists_cons
    rw [List.intercalate_cons_cons, ih]

/-- No piece contains the delimiter. -/
theorem Cut.not_infix (cut : Cut delimiter text parts) (nonempty : delimiter ≠ [])
    (member : piece ∈ parts) : ¬ delimiter <:+: piece := by
  induction cut with
  | whole free =>
    rw [List.mem_singleton.1 member]
    exact free nonempty
  | first earliest _ ih =>
    rcases List.mem_cons.1 member with rfl | later
    · exact fun within => earliest (within.trans (List.prefix_append _ _).isInfix)
    · exact ih later

/-! ## Searching -/

/-- A search finds nothing where the pattern does not occur. -/
theorem firstOccurrence?_of_free (free : ¬ delimiter <:+: text) :
    firstOccurrence? delimiter text = none := by
  induction text with
  | nil =>
    have nonempty : ¬ delimiter.isEmpty = true := fun empty =>
      free (List.infix_nil.2 (List.isEmpty_iff.1 empty))
    rw [firstOccurrence?, if_neg nonempty]
  | cons c rest ih =>
    rw [List.infix_cons_iff, not_or] at free
    rw [firstOccurrence?, if_neg (mt List.isPrefixOf_iff_prefix.1 free.1), ih free.2]
    rfl

/-- A search ends at the first occurrence. -/
theorem firstOccurrence?_of_earliest {before : List Char} (nonempty : delimiter ≠ [])
    (earliest : ¬ delimiter <:+: before ++ delimiter.dropLast) (rest : List Char) :
    firstOccurrence? delimiter (before ++ delimiter ++ rest) = some (byteCount before) := by
  induction before with
  | nil =>
    obtain ⟨d, more, rfl⟩ := List.exists_cons_of_ne_nil nonempty
    have here : (d :: more).isPrefixOf (d :: more ++ rest) = true :=
      List.isPrefixOf_iff_prefix.2 (List.prefix_append _ _)
    exact if_pos here
  | cons c before ih =>
    rw [List.cons_append, List.infix_cons_iff, not_or] at earliest
    have notHere : ¬ delimiter.isPrefixOf (c :: (before ++ delimiter ++ rest)) = true := by
      intro here
      refine earliest.1 (List.prefix_of_prefix_length_le (List.isPrefixOf_iff_prefix.1 here) ?_ ?_)
      · refine (List.prefix_cons_inj c).2 ?_
        rw [List.append_assoc]
        exact (List.prefix_append_right_inj before).2
          ((List.dropLast_prefix delimiter).trans (List.prefix_append _ _))
      · have positive := List.length_pos_iff.2 nonempty
        simp only [List.length_cons, List.length_append, List.length_dropLast]
        omega
    rw [List.cons_append, List.cons_append, firstOccurrence?, if_neg notHere, ih earliest.2]
    rfl

/-- The first piece is as long as the way to the first occurrence, or to the end. -/
theorem Cut.search_eq (cut : Cut delimiter text (piece :: parts)) :
    (if delimiter.isEmpty then none else firstOccurrence? delimiter text).getD (byteCount text) =
      byteCount piece := by
  cases cut with
  | whole free =>
    by_cases empty : delimiter = []
    · subst empty
      rfl
    · rw [if_neg (mt List.isEmpty_iff.1 empty), firstOccurrence?_of_free (free empty)]
      rfl
  | first earliest _ =>
    have nonempty : delimiter ≠ [] := by
      rintro rfl
      exact earliest (List.nil_infix)
    rw [if_neg (mt List.isEmpty_iff.1 nonempty), firstOccurrence?_of_earliest nonempty earliest]
    rfl

end

end PluralTemplate.Text
