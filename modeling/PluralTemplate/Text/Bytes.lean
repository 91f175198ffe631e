/-!
# Positions in bytes

Positions and lengths in a template are given in bytes of its UTF-8 form.
-/

set_option autoImplicit false

namespace PluralTemplate.Text

/-- The length of a text in bytes. -/
def byteCount (text : List Char) : Nat := text.foldr (fun c count => c.utf8Size + count) 0

/-- What is left of a text behind its first `count` bytes; nothing if they end inside a
character. -/
def dropBytes : Nat → List Char → List Char
  | 0, text => text
  | _ + 1, [] => []
  | count + 1, c :: rest =>
    if c.utf8Size ≤ count + 1 then dropBytes (count + 1 - c.utf8Size) rest else []

/-- The byte at which a pattern first occurs in a text. -/
def firstOccurrence? (pattern : List Char) : List Char → Option Nat
  | [] => if pattern.isEmpty then some 0 else none
  | c :: rest =>
    if pattern.isPrefixOf (c :: rest) then some 0
    else (firstOccurrence? pattern rest).map (c.utf8Size + ·)

theorem byteCount_append (a b : List Char) : byteCount (a ++ b) = byteCount a + byteCount b := by
  induction a with
  | nil => simp [byteCount]
  | cons c rest ih => simp_all [byteCount, Nat.add_assoc]

/-- The bytes of a list of characters are those of its string. -/
theorem utf8ByteSize_ofList (text : List Char) :
    (String.ofList text).utf8ByteSize = byteCount text := by
  induction text with
  | nil => rfl
  | cons c rest ih =>
    rw [String.ofList_cons, String.utf8ByteSize_append, String.utf8ByteSize_singleton, ih]
    rfl

theorem byteCount_toList (text : String) : byteCount text.toList = text.utf8ByteSize := by
  rw [← utf8ByteSize_ofList, String.ofList_toList]

/-- Dropping as many bytes as a text begins with leaves what follows. -/
theorem dropBytes_append (a b : List Char) : dropBytes (byteCount a) (a ++ b) = b := by
  induction a with
  | nil => simp [byteCount, dropBytes]
  | cons c rest ih =>
    have size : byteCount (c :: rest) = c.utf8Size + byteCount rest := by simp [byteCount]
    obtain ⟨k, hk⟩ : ∃ k, byteCount (c :: rest) = k + 1 :=
      ⟨byteCount (c :: rest) - 1, by have := c.utf8Size_pos; omega⟩
    rw [List.cons_append, hk, dropBytes, if_pos (by omega)]
    rw [show k + 1 - c.utf8Size = byteCount rest by omega, ih]

theorem byteCount_pos {text : List Char} (nonempty : text ≠ []) : 0 < byteCount text := by
  obtain ⟨c, rest, rfl⟩ := List.exists_cons_of_ne_nil nonempty
  have := c.utf8Size_pos
  simp only [byteCount, List.foldr_cons]
  omega

theorem length_dropBytes_le (count : Nat) (text : List Char) :
    (dropBytes count text).length ≤ text.length := by
  fun_induction dropBytes count text with
  | case1 => exact Nat.le_refl _
  | case2 => exact Nat.le_refl _
  | case3 count c rest fits ih => exact Nat.le_succ_of_le ih
  | case4 => exact Nat.zero_le _

/-- Dropping a byte or more shortens a text that has any. -/
theorem length_dropBytes_lt {count : Nat} (some : 0 < count) (c : Char) (rest : List Char) :
    (dropBytes count (c :: rest)).length < (c :: rest).length := by
  obtain ⟨count, rfl⟩ : ∃ k, count = k + 1 := ⟨count - 1, by omega⟩
  unfold dropBytes
  split
  · exact Nat.lt_succ_of_le (length_dropBytes_le _ _)
  · exact Nat.zero_lt_succ _

end PluralTemplate.Text
