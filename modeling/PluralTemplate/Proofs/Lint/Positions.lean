import PluralTemplate.Diagnostic
import PluralTemplate.Proofs.Text.Cut

/-!
# Warnings point at their parts

The boundaries of parts are found three times: by the splitter, by the offset that runs along
while the parts are looked at, and by a search for the next delimiter when a part is labelled.
`Cut` is what they share. Where a text is cut into some parts, the bytes in front of a part are
those of the parts before it with their delimiters, which is what the offset adds up
(`exists_part_of_mem_ofParts`), and what remains is cut into that part and the later ones, so the
search ends where the part does (`labelLength_eq`).
-/

set_option autoImplicit false

namespace PluralTemplate.Lint

open Text

variable {index offset gap : Nat} {bound : Dictionary Nat} {warning : Warning}

/-! ## Warnings of one part -/

/-- A value is warned about if it is bound already, by its last binding. -/
theorem rebind_cons (index offset : Nat) (bound : Dictionary Nat) (value : String)
    (rest : List String) :
    (rebind index offset bound (value :: rest)).1 =
      ((bound.get? value).map (.duplicateExplicitValue index offset · value)).toList ++
        (rebind index offset (bound.insert value index) rest).1 := by
  rw [rebind]
  cases bound.get? value with
  | none => rfl
  | some previous => rfl

/-- The values of a part are warned about as duplicates only, at the position of the part. -/
theorem exists_duplicate_of_mem_rebind {values : List String}
    (member : warning ∈ (rebind index offset bound values).1) :
    ∃ previous value, warning = .duplicateExplicitValue index offset previous value := by
  induction values generalizing bound with
  | nil => cases member
  | cons value rest ih =>
    rw [rebind_cons] at member
    rcases List.mem_append.1 member with here | later
    · obtain ⟨previous, -, same⟩ := Option.map_eq_some_iff.1 (Option.mem_toList.1 here)
      exact ⟨previous, value, same.symm⟩
    · exact ih later

theorem position_of_mem_rebind {values : List String}
    (member : warning ∈ (rebind index offset bound values).1) :
    warning.index = index ∧ warning.offset = offset := by
  obtain ⟨previous, value, rfl⟩ := exists_duplicate_of_mem_rebind member
  exact ⟨rfl, rfl⟩

/-- A part is warned about at its own position. -/
theorem position_of_mem_ofPart {text : String}
    (member : warning ∈ (ofPart index offset bound text).1) :
    warning.index = index ∧ warning.offset = offset := by
  unfold ofPart at member
  split at member
  · exact position_of_mem_rebind member
  · split at member
    · rw [List.mem_singleton.1 member]
      exact ⟨rfl, rfl⟩
    · cases member
  · split at member
    · rw [List.mem_singleton.1 member]
      exact ⟨rfl, rfl⟩
    · cases member

/-- There is nothing to warn about in an empty part: it has no rule, nor the beginning of one. -/
theorem ofPart_empty : (ofPart index offset bound "").1 = [] := by
  have plain : Part.ofText "" = .plain "" := by decide +kernel
  rw [ofPart, plain]
  rfl

/-! ## Warnings of a list of parts -/

theorem ofParts_cons (gap index offset : Nat) (bound : Dictionary Nat) (text : String)
    (rest : List String) :
    ofParts gap index offset bound (text :: rest) =
      (ofPart index offset bound text).1 ++
        ofParts gap (index + 1) (offset + byteCount text.toList + gap)
          (ofPart index offset bound text).2 rest := rfl

/-- The texts of parts, each with the delimiter behind it. -/
def joined (delimiter : String) (parts : List String) : String :=
  String.join (parts.map (· ++ delimiter))

theorem toList_joined (delimiter : String) (parts : List String) :
    (joined delimiter parts).toList =
      parts.flatMap fun part => part.toList ++ delimiter.toList := by
  simp [joined, List.flatMap_map]

theorem byteCount_joined_cons (delimiter part : String) (parts : List String) :
    byteCount (joined delimiter (part :: parts)).toList =
      byteCount part.toList + byteCount delimiter.toList +
        byteCount (joined delimiter parts).toList := by
  rw [toList_joined, toList_joined, List.flatMap_cons, byteCount_append, byteCount_append]

theorem index_le_of_mem_ofParts {parts : List String}
    (member : warning ∈ ofParts gap index offset bound parts) : index ≤ warning.index := by
  induction parts generalizing index offset bound with
  | nil => cases member
  | cons text rest ih =>
    rw [ofParts_cons] at member
    rcases List.mem_append.1 member with here | later
    · exact Nat.le_of_eq (position_of_mem_ofPart here).1.symm
    · exact Nat.le_of_succ_le (ih later)

/-- The first part is the only one that is warned about at its index. -/
theorem mem_ofParts_cons_iff_of_eq {text : String} {rest : List String}
    (here : warning.index = index) :
    warning ∈ ofParts gap index offset bound (text :: rest) ↔
      warning ∈ (ofPart index offset bound text).1 := by
  rw [ofParts_cons, List.mem_append]
  apply or_iff_left
  intro later
  have behind := index_le_of_mem_ofParts later
  omega

theorem mem_ofParts_cons_iff_of_lt {text : String} {rest : List String}
    (behind : index < warning.index) :
    warning ∈ ofParts gap index offset bound (text :: rest) ↔
      warning ∈ ofParts gap (index + 1) (offset + byteCount text.toList + gap)
        (ofPart index offset bound text).2 rest := by
  rw [ofParts_cons, List.mem_append]
  apply or_iff_right
  intro here
  have first := (position_of_mem_ofPart here).1
  omega

/-- Where the bindings do not matter, whether a part is warned about is up to its text: a warning
with the index of a part is given if it has the offset of that part and fits the text. -/
theorem mem_ofParts_iff {delimiter : String} {fits : String → Prop}
    (alone : ∀ index offset bound text, warning ∈ (ofPart index offset bound text).1 ↔
      warning.index = index ∧ warning.offset = offset ∧ fits text)
    (parts : List String) {place : Nat} (atPlace : warning.index = index + place) :
    warning ∈ ofParts (byteCount delimiter.toList) index offset bound parts ↔
      warning.offset = offset + byteCount (joined delimiter (parts.take place)).toList ∧
        ∃ text, parts[place]? = some text ∧ fits text := by
  induction parts generalizing index offset bound place with
  | nil => simp [ofParts]
  | cons text rest ih =>
    cases place with
    | zero =>
      have here : warning.index = index := atPlace
      rw [mem_ofParts_cons_iff_of_eq here, alone]
      simp [here, joined, byteCount]
    | succ place =>
      have behind : index < warning.index := by omega
      have later : warning.index = index + 1 + place := by omega
      rw [mem_ofParts_cons_iff_of_lt behind, ih later, List.take_succ_cons,
        byteCount_joined_cons, List.getElem?_cons_succ]
      simp only [Nat.add_assoc]

/-- Parts are warned about in their order. -/
theorem pairwise_index_ofParts (parts : List String) :
    ((ofParts gap index offset bound parts).map Warning.index).Pairwise (· ≤ ·) := by
  induction parts generalizing index offset bound with
  | nil => exact .nil
  | cons text rest ih =>
    have here : ∀ w ∈ (ofPart index offset bound text).1, w.index = index :=
      fun w member => (position_of_mem_ofPart member).1
    rw [ofParts_cons, List.map_append, List.pairwise_append]
    refine ⟨?_, ih, ?_⟩
    · refine List.pairwise_map.2 (List.pairwise_of_forall_mem_list fun a first b second => ?_)
      exact Nat.le_of_eq ((here a first).trans (here b second).symm)
    · intro i first j second
      obtain ⟨a, inPart, rfl⟩ := List.mem_map.1 first
      obtain ⟨b, inRest, rfl⟩ := List.mem_map.1 second
      rw [here a inPart]
      exact Nat.le_of_succ_le (index_le_of_mem_ofParts inRest)

/-- A warning is about a part that is not empty. The bytes in front of the part are those of the
parts before it with their delimiters, and behind them the text is cut into the part and the
later ones. -/
theorem exists_part_of_mem_ofParts {delimiter : String} {text : List Char} {parts : List String}
    (cut : Cut delimiter.toList text (parts.map String.toList))
    (member : warning ∈ ofParts (byteCount delimiter.toList) index offset bound parts) :
    ∃ place part rest more, parts[place]? = some part ∧ part ≠ "" ∧
      warning.index = index + place ∧
      warning.offset = offset + byteCount (joined delimiter (parts.take place)).toList ∧
      text = (joined delimiter (parts.take place)).toList ++ rest ∧
      Cut delimiter.toList rest (part.toList :: more) := by
  induction parts generalizing index offset bound text with
  | nil => cases member
  | cons part later ih =>
    rw [ofParts_cons] at member
    rcases List.mem_append.1 member with here | inRest
    · obtain ⟨atIndex, atOffset⟩ := position_of_mem_ofPart here
      refine ⟨0, part, text, later.map String.toList, rfl, ?_, atIndex, atOffset, rfl, cut⟩
      rintro rfl
      rw [ofPart_empty] at here
      cases here
    · generalize parsed : (part :: later).map String.toList = pieces at cut
      cases cut with
      | whole _ =>
        obtain ⟨-, none⟩ := List.cons.inj parsed
        rw [List.map_eq_nil_iff.1 none] at inRest
        cases inRest
      | first _ cut =>
        obtain ⟨rfl, rfl⟩ := List.cons.inj parsed
        obtain ⟨place, found, rest, more, atPlace, nonempty, atIndex, atOffset, rfl, remains⟩ :=
          ih cut inRest
        have front : (joined delimiter (part :: later.take place)).toList =
            part.toList ++ delimiter.toList ++ (joined delimiter (later.take place)).toList := by
          rw [toList_joined, toList_joined, List.flatMap_cons]
        refine ⟨place + 1, found, rest, more, atPlace, nonempty, ?_, ?_, ?_, remains⟩
        · rw [atIndex]
          omega
        · rw [atOffset, List.take_succ_cons, front, byteCount_append, byteCount_append]
          omega
        · rw [List.take_succ_cons, front, List.append_assoc _ _ rest]

/-! ## Labels -/

/-- A label ends with its part. -/
theorem labelLength_eq {template delimiter : String} {before rest piece : List Char}
    {more : List (List Char)} (split : template.toList = before ++ rest)
    (cut : Cut delimiter.toList rest (piece :: more)) :
    Diagnostic.labelLength template delimiter (byteCount before) = max 1 (byteCount piece) := by
  have empty : delimiter.isEmpty = delimiter.toList.isEmpty := by
    rw [Bool.eq_iff_iff, String.isEmpty_iff, List.isEmpty_iff, String.toList_eq_nil_iff]
  rw [Diagnostic.labelLength, split, dropBytes_append, empty]
  exact congrArg (max 1) cut.search_eq

/-- The diagnostic of a warning labels the part that begins at its offset. -/
theorem labels_ofWarning {template delimiter front part : String} {rest : List Char}
    {more : List (List Char)} (split : template.toList = front.toList ++ rest)
    (cut : Cut delimiter.toList rest (part.toList :: more)) (nonempty : part ≠ "")
    (atOffset : warning.offset = front.utf8ByteSize) :
    (Diagnostic.ofWarning template delimiter warning).labels =
      [⟨warning.offset, part.utf8ByteSize, "this part"⟩] := by
  have inside : warning.offset ≤ byteCount template.toList := by
    rw [split, byteCount_append, byteCount_toList, atOffset]
    exact Nat.le_add_right _ _
  have positive : 0 < byteCount part.toList :=
    byteCount_pos (mt String.toList_eq_nil_iff.1 nonempty)
  have length := labelLength_eq split cut
  rw [Nat.max_eq_right positive, byteCount_toList, byteCount_toList, ← atOffset] at length
  rw [Diagnostic.ofWarning, Nat.min_eq_left inside, length]

/-- The bytes in front of a stretch of a text, and those up to its end, end with a character. -/
theorem isValid_around (before part behind : String) :
    String.Pos.Raw.IsValid (before ++ part ++ behind) ⟨before.utf8ByteSize⟩ ∧
    String.Pos.Raw.IsValid (before ++ part ++ behind)
      ⟨before.utf8ByteSize + part.utf8ByteSize⟩ := by
  constructor
  · exact String.Pos.Raw.isValid_iff_exists_append.2
      ⟨before, part ++ behind, String.append_assoc .., rfl⟩
  · rw [← String.utf8ByteSize_append]
    exact String.Pos.Raw.isValid_iff_exists_append.2 ⟨before ++ part, behind, rfl, rfl⟩

/-- The parts of a template joined by the delimiter are the template, and no part contains a
delimiter that is not empty. Warnings come in the order of parts. Each is about a part of its
index which is not empty and begins at its offset, behind the earlier parts and their delimiters,
and the label of its diagnostic is on that part: it lies in the template, between two places
where characters begin or end. -/
theorem warnings_point_at_parts (template delimiter : String) :
    let parts := Text.split delimiter template
    delimiter.intercalate parts = template ∧
    (delimiter ≠ "" → ∀ part ∈ parts, ¬ delimiter.toList <:+: part.toList) ∧
    ((ofTemplate template delimiter).map Warning.index).Pairwise (· ≤ ·) ∧
    ∀ warning ∈ ofTemplate template delimiter, ∃ part behind,
      parts[warning.index]? = some part ∧ part ≠ "" ∧
      template = joined delimiter (parts.take warning.index) ++ part ++ behind ∧
      warning.offset = (joined delimiter (parts.take warning.index)).utf8ByteSize ∧
      (Diagnostic.ofWarning template delimiter warning).labels =
        [⟨warning.offset, part.utf8ByteSize, "this part"⟩] ∧
      warning.offset + part.utf8ByteSize ≤ template.utf8ByteSize ∧
      String.Pos.Raw.IsValid template ⟨warning.offset⟩ ∧
      String.Pos.Raw.IsValid template ⟨warning.offset + part.utf8ByteSize⟩ := by
  intro parts
  have pieces_eq : parts.map String.toList = pieces delimiter.toList template.toList := by
    simp [parts, Text.split, Function.comp_def]
  have cut : Cut delimiter.toList template.toList (parts.map String.toList) :=
    pieces_eq ▸ cut_pieces delimiter.toList template.toList
  refine ⟨?_, ?_, pairwise_index_ofParts parts, ?_⟩
  · rw [← String.toList_inj, String.toList_intercalate]
    exact cut.intercalate_eq
  · intro nonempty part member
    exact cut.not_infix (mt String.toList_eq_nil_iff.1 nonempty) (List.mem_map_of_mem member)
  · intro warning member
    obtain ⟨place, part, rest, more, atPlace, nonempty, atIndex, atOffset, front, remains⟩ :=
      exists_part_of_mem_ofParts cut member
    rw [Nat.zero_add] at atIndex atOffset
    subst atIndex
    obtain ⟨behind, whole⟩ := remains.exists_behind
    have split : template =
        joined delimiter (parts.take warning.index) ++ part ++ String.ofList behind := by
      rw [← String.toList_inj, front, ← whole]
      simp
    rw [byteCount_toList] at atOffset
    have within : warning.offset + part.utf8ByteSize ≤ template.utf8ByteSize := by
      rw [split, atOffset, String.utf8ByteSize_append, String.utf8ByteSize_append]
      exact Nat.le_add_right _ _
    obtain ⟨opens, closes⟩ :=
      isValid_around (joined delimiter (parts.take warning.index)) part (String.ofList behind)
    rw [← split, ← atOffset] at opens closes
    exact ⟨part, String.ofList behind, atPlace, nonempty, split, atOffset,
      labels_ofWarning front remains nonempty atOffset, within, opens, closes⟩

/-- The fourth part binds a value anew, sixteen bytes behind the beginning. -/
theorem warnings_point_at_parts_rebound :
    Warning.duplicateExplicitValue 3 16 2 "2" ∈
      ofTemplate "é::\x7b1 x::\x7b2\x7da::\x7b2.0\x7db" "::" ∧
    (Diagnostic.ofWarning "é::\x7b1 x::\x7b2\x7da::\x7b2.0\x7db" "::"
      (.duplicateExplicitValue 3 16 2 "2")).labels = [⟨16, 6, "this part"⟩] := by
  have member : Warning.duplicateExplicitValue 3 16 2 "2" ∈
      ofTemplate "é::\x7b1 x::\x7b2\x7da::\x7b2.0\x7db" "::" := by decide +kernel
  have fourth : (Text.split "::" "é::\x7b1 x::\x7b2\x7da::\x7b2.0\x7db")[3]? =
      some "\x7b2.0\x7db" := by decide +kernel
  obtain ⟨part, -, atIndex, -, -, -, labels, -⟩ :=
    (warnings_point_at_parts "é::\x7b1 x::\x7b2\x7da::\x7b2.0\x7db" "::").2.2.2 _ member
  cases fourth.symm.trans atIndex
  exact ⟨member, labels⟩

end PluralTemplate.Lint
