import Mathlib.Data.List.Forall2
import PluralTemplate.Json

/-!
# What is written is JSON

`Written` says which texts a document has, without saying how one is made: brackets around what is
listed with commas between, a colon behind a name, quotes around a text whose quotes, backslashes
and controls are escaped, and white space where the writer likes. The text that is written for a
document is one of them (`written_pretty`), by induction on the document.
-/

set_option autoImplicit false

namespace PluralTemplate.Json

/-! ## Texts between quotes -/

def hexDigits : List Char := "0123456789abcdef".toList

/-- What a character may be written as between quotes. -/
inductive Escape : Char → List Char → Prop
  | raw {c : Char} (noQuote : c ≠ '"') (noBackslash : c ≠ '\\') (noControl : 0x20 ≤ c.toNat) :
    Escape c [c]
  | quote : Escape '"' ['\\', '"']
  | backslash : Escape '\\' ['\\', '\\']
  | backspace : Escape '\x08' ['\\', 'b']
  | formFeed : Escape '\x0c' ['\\', 'f']
  | lineFeed : Escape '\n' ['\\', 'n']
  | carriageReturn : Escape '\r' ['\\', 'r']
  | tab : Escape '\t' ['\\', 't']
  | code {c high low : Char} (highDigit : hexDigits[c.toNat / 16]? = some high)
    (lowDigit : hexDigits[c.toNat % 16]? = some low) :
    Escape c ['\\', 'u', '0', '0', high, low]

/-- A text between quotes, character by character. -/
def Quotes (s written : String) : Prop :=
  ∃ pieces, List.Forall₂ Escape s.toList pieces ∧
    written.toList = '"' :: pieces.flatten ++ ['"']

theorem hexDigits_of_lt {n : Nat} (small : n < 16) :
    hexDigits[n]? = some (Nat.digitChar n) := by
  revert n
  decide

theorem escape_escaped (c : Char) : Escape c (escaped c) := by
  unfold escaped
  split
  · rename_i letter found
    obtain ⟨before, after, split, -⟩ := List.lookup_eq_some_iff.1 found
    have member : (c, letter) ∈ shortEscapes := by
      rw [split]
      exact List.mem_append_right _ List.mem_cons_self
    simp only [shortEscapes, List.mem_cons, Prod.mk.injEq, List.not_mem_nil, or_false] at member
    rcases member with ⟨rfl, rfl⟩ | ⟨rfl, rfl⟩ | ⟨rfl, rfl⟩ | ⟨rfl, rfl⟩ | ⟨rfl, rfl⟩ |
      ⟨rfl, rfl⟩ | ⟨rfl, rfl⟩
    · exact .quote
    · exact .backslash
    · exact .backspace
    · exact .formFeed
    · exact .lineFeed
    · exact .carriageReturn
    · exact .tab
  · rename_i absent
    rw [List.lookup_eq_none_iff] at absent
    split
    · rename_i control
      exact .code (hexDigits_of_lt (by omega)) (hexDigits_of_lt (by omega))
    · rename_i noControl
      refine .raw ?_ ?_ (Nat.le_of_not_lt noControl)
      · rintro rfl
        exact absurd (absent _ List.mem_cons_self) (by decide)
      · rintro rfl
        exact absurd (absent _ (List.mem_cons_of_mem _ List.mem_cons_self)) (by decide)

theorem quotes_quoted (s : String) : Quotes s (quoted s) := by
  refine ⟨s.toList.map escaped, ?_, ?_⟩
  · rw [List.forall₂_map_right_iff, List.forall₂_same]
    exact fun c _ => escape_escaped c
  · rw [quoted, String.toList_ofList, List.flatMap_def]

/-! ## What stands between brackets -/

/-- White space between tokens. -/
def IsSpace (space : String) : Prop := ∀ c ∈ space.toList, c ∈ [' ', '\t', '\n', '\r']

/-- Texts with commas between them and white space around them. -/
inductive Listed : List String → String → Prop
  | nothing {space : String} (blank : IsSpace space) : Listed [] space
  | last {text before after : String} (blankBefore : IsSpace before) (blankAfter : IsSpace after) :
    Listed [text] (before ++ text ++ after)
  | next {text following before body : String} {rest : List String} (blank : IsSpace before)
    (listed : Listed (following :: rest) body) :
    Listed (text :: following :: rest) (before ++ text ++ "," ++ body)

theorem isSpace_single : IsSpace " " := by
  intro c member
  rw [List.mem_singleton.1 member]
  exact List.mem_cons_self

theorem isSpace_newline_margin (depth : Nat) : IsSpace ("\n" ++ margin depth) := by
  intro c member
  rw [String.toList_append, List.mem_append] at member
  rcases member with newline | inMargin
  · rw [List.mem_singleton.1 newline]
    decide
  · rw [margin, String.toList_ofList] at inMargin
    rw [List.eq_of_mem_replicate inMargin]
    decide

/-- The line feed behind a comma belongs to what follows. -/
theorem comma_newline (before after : String) :
    before ++ ",\n" ++ after = before ++ "," ++ ("\n" ++ after) := by
  change before ++ ("," ++ "\n") ++ after = _
  simp only [String.append_assoc]

theorem listed_lines {space : String} (blank : IsSpace space) (depth : Nat) (line : String)
    (rest : List String) :
    Listed (line :: rest)
      ("\n" ++ String.intercalate ",\n" ((line :: rest).map (margin depth ++ ·)) ++ space) := by
  induction rest generalizing line with
  | nil =>
    rw [List.map_cons, List.map_nil, String.intercalate_singleton, ← String.append_assoc]
    exact .last (isSpace_newline_margin depth) blank
  | cons following rest ih =>
    have split : "\n" ++ String.intercalate ",\n"
          ((line :: following :: rest).map (margin depth ++ ·)) ++ space =
        "\n" ++ margin depth ++ line ++ "," ++ ("\n" ++ String.intercalate ",\n"
          ((following :: rest).map (margin depth ++ ·)) ++ space) := by
      rw [List.map_cons, List.map_cons, String.intercalate_cons_cons, comma_newline]
      simp only [String.append_assoc]
    rw [split]
    exact .next (isSpace_newline_margin depth) (ih following)

/-- What is written between brackets is a list of the lines. -/
theorem exists_listed_bracketed (depth : Nat) (opening closing : String) (lines : List String) :
    ∃ body, Listed lines body ∧
      bracketed depth opening closing lines = opening ++ body ++ closing := by
  cases lines with
  | nil =>
    refine ⟨"", .nothing (fun c member => absurd member List.not_mem_nil), ?_⟩
    rw [String.append_empty]
    rfl
  | cons line rest =>
    refine ⟨_, listed_lines (isSpace_newline_margin depth) (depth + 1) line rest, ?_⟩
    simp [bracketed, String.append_assoc]

/-! ## Documents -/

mutual

/-- The texts of a document. -/
inductive Written : Json → String → Prop
  | null : Written .null "null"
  | number (n : Nat) : Written (.number n) (toString n)
  | text {s written : String} (quotes : Quotes s written) : Written (.text s) written
  | list {items : List Json} {texts : List String} {body : String}
    (written : List.Forall₂ Written items texts) (listed : Listed texts body) :
    Written (.list items) ("[" ++ body ++ "]")
  | object {members : List (String × Json)} {texts : List String} {body : String}
    (written : List.Forall₂ WrittenMember members texts) (listed : Listed texts body) :
    Written (.object members) ("\x7b" ++ body ++ "\x7d")

/-- The texts of a member of an object. -/
inductive WrittenMember : String × Json → String → Prop
  | named {name quotedName space text : String} {value : Json} (quotes : Quotes name quotedName)
    (blank : IsSpace space) (written : Written value text) :
    WrittenMember (name, value) (quotedName ++ ":" ++ space ++ text)

end

theorem written_writeItems {depth : Nat} {items : List Json}
    (each : ∀ item ∈ items, Written item (write depth item)) :
    List.Forall₂ Written items (writeItems depth items) := by
  induction items with
  | nil => exact .nil
  | cons item rest ih =>
    obtain ⟨first, others⟩ := List.forall_mem_cons.1 each
    exact .cons first (ih others)

theorem written_writeMembers {depth : Nat} {members : List (String × Json)}
    (each : ∀ member ∈ members, Written member.2 (write depth member.2)) :
    List.Forall₂ WrittenMember members (writeMembers depth members) := by
  induction members with
  | nil => exact .nil
  | cons member rest ih =>
    obtain ⟨first, others⟩ := List.forall_mem_cons.1 each
    have colon : ": " = ":" ++ " " := rfl
    rw [writeMembers, colon, ← String.append_assoc]
    exact .cons (.named (quotes_quoted member.1) isSpace_single first) (ih others)

/-- The depth changes white space only. -/
theorem written_write (depth : Nat) : (document : Json) → Written document (write depth document)
  | null => .null
  | number n => .number n
  | text s => .text (quotes_quoted s)
  | list items => by
    have written : List.Forall₂ Written items (writeItems (depth + 1) items) :=
      written_writeItems fun item inside => written_write (depth + 1) item
    obtain ⟨body, listed, split⟩ :=
      exists_listed_bracketed depth "[" "]" (writeItems (depth + 1) items)
    rw [write, split]
    exact .list written listed
  | object members => by
    have written : List.Forall₂ WrittenMember members (writeMembers (depth + 1) members) :=
      written_writeMembers fun member inside => written_write (depth + 1) member.2
    obtain ⟨body, listed, split⟩ :=
      exists_listed_bracketed depth "\x7b" "\x7d" (writeMembers (depth + 1) members)
    rw [write, split]
    exact .object written listed
termination_by document => document
decreasing_by
  · have smaller := List.sizeOf_lt_of_mem inside
    rw [list.sizeOf_spec]
    omega
  · obtain ⟨name, value⟩ := member
    have smaller := List.sizeOf_lt_of_mem inside
    rw [Prod.mk.sizeOf_spec] at smaller
    change sizeOf value < _
    rw [object.sizeOf_spec]
    omega

/-- What is written for a document says this document. -/
theorem written_pretty (document : Json) : Written document document.pretty :=
  written_write 0 document

end PluralTemplate.Json
