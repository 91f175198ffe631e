import PluralTemplate.Dictionary

/-!
# The order of bytes

UTF-8 gives a character that is lower than another one bytes that are lower, since the first byte
grows with the number of bytes and the bits follow from the highest to the lowest
(`utf8EncodeChar_append_lt`). So texts, which are compared by their characters, are in the order of
their bytes (`lt_iff_utf8_lt`).
-/

set_option autoImplicit false

namespace PluralTemplate.Text

/-- The bytes of a text in UTF-8. -/
def utf8 (text : String) : List UInt8 := text.toUTF8.data.toList

theorem utf8_eq_flatMap (text : String) :
    utf8 text = text.toList.flatMap String.utf8EncodeChar := by
  rw [utf8, String.toUTF8_eq_toByteArray, ← String.utf8Encode_toList, List.utf8Encode,
    List.data_toByteArray]

theorem utf8_append (a b : String) : utf8 (a ++ b) = utf8 a ++ utf8 b := by
  simp [utf8_eq_flatMap]

/-- Listing bytes from a place on goes through all that are left. -/
theorem toListLoop_eq (bytes : ByteArray) (place : Nat) (taken : List UInt8) :
    ByteArray.toList.loop bytes place taken = taken.reverse ++ bytes.data.toList.drop place := by
  induction place, taken using ByteArray.toList.loop.induct bytes with
  | case1 place taken inside ih =>
    have within : place < bytes.data.toList.length := inside
    have byte : bytes.get! place = bytes.data.toList[place] :=
      getElem!_pos bytes.data place inside
    rw [ByteArray.toList.loop, if_pos inside, ih, List.drop_eq_getElem_cons within, byte]
    simp
  | case2 place taken outside =>
    have behind : bytes.data.toList.length ≤ place := Nat.le_of_not_lt outside
    rw [ByteArray.toList.loop, if_neg outside, List.drop_eq_nil_of_le behind, List.append_nil]

theorem toList_toUTF8 (text : String) : text.toUTF8.toList = utf8 text := by
  rw [ByteArray.toList, toListLoop_eq]
  rfl

/-- The lesser of two numbers has the lesser digit where they first differ. -/
theorem exists_lesser_digit {v w : Nat} (less : v < w) :
    v / 262144 < w / 262144 ∨ v / 262144 = w / 262144 ∧
      (v / 4096 % 64 < w / 4096 % 64 ∨ v / 4096 % 64 = w / 4096 % 64 ∧
        (v / 64 % 64 < w / 64 % 64 ∨ v / 64 % 64 = w / 64 % 64 ∧ v % 64 < w % 64)) := by
  have step : ∀ a b : Nat, a < b → a / 64 < b / 64 ∨ a / 64 = b / 64 ∧ a % 64 < b % 64 := by
    omega
  have first := step v w less
  have second := step (v / 64) (w / 64)
  have third := step (v / 4096) (w / 4096)
  omega

/-- A lower character has lower bytes, whatever stands behind it. -/
theorem utf8EncodeChar_append_lt {c d : Char} (less : c < d) (x y : List UInt8) :
    String.utf8EncodeChar c ++ x < String.utf8EncodeChar d ++ y := by
  have lower : c.val.toNat < d.val.toNat := less
  have bound : d.val.toNat < 0x110000 := by
    rcases d.valid with low | high <;> omega
  have digit := exists_lesser_digit lower
  unfold String.utf8EncodeChar
  dsimp only
  generalize c.val.toNat = v at *
  generalize d.val.toNat = w at *
  -- One case for each pair of lengths, which the first byte tells apart.
  repeat' split
  all_goals
    simp (disch := omega) only [List.cons_append, List.nil_append, List.cons_lt_cons_iff,
      UInt8.lt_iff_toNat_lt, ← UInt8.toNat_inj, UInt8.toNat_ofNat', Nat.reducePow,
      Nat.mod_eq_of_lt]
    omega

theorem utf8_lt_of_lt {a b : List Char} (less : a < b) :
    a.flatMap String.utf8EncodeChar < b.flatMap String.utf8EncodeChar := by
  induction less with
  | nil =>
    rename_i c rest
    rw [List.flatMap_nil, List.flatMap_cons]
    obtain ⟨byte, bytes, encoded⟩ :=
      List.exists_cons_of_ne_nil (String.utf8EncodeChar_ne_nil (c := c))
    rw [encoded]
    exact List.Lex.nil
  | rel lower =>
    rw [List.flatMap_cons, List.flatMap_cons]
    exact utf8EncodeChar_append_lt lower _ _
  | cons _ ih =>
    rw [List.flatMap_cons, List.flatMap_cons]
    exact List.append_left_lt ih

/-- Texts are in the order of their bytes. -/
theorem lt_iff_utf8_lt {a b : String} : a < b ↔ utf8 a < utf8 b := by
  rw [utf8_eq_flatMap, utf8_eq_flatMap]
  constructor
  · intro less
    exact utf8_lt_of_lt (String.lt_iff.1 less)
  · intro lower
    apply Decidable.byContradiction
    intro notLess
    by_cases greater : b < a
    · exact List.lt_asymm lower (utf8_lt_of_lt (String.lt_iff.1 greater))
    · have same : a = b := String.le_antisymm (String.not_lt.1 greater) (String.not_lt.1 notLess)
      rw [same] at lower
      exact List.lt_irrefl _ lower

theorem le_iff_utf8_le {a b : String} : a ≤ b ↔ utf8 a ≤ utf8 b := by
  rw [← String.not_lt, ← List.not_lt, lt_iff_utf8_lt]

end PluralTemplate.Text
