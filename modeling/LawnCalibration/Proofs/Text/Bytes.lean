import Mathlib.Data.List.Basic
import Mathlib.Data.String.Basic

/-
Texts as bytes.

A text of ASCII characters has one byte for each of them, so that two such
texts stand in one order by their characters and by their bytes.
-/

set_option autoImplicit false

namespace LawnCalibration.Text

def bytes (text : String) : List UInt8 :=
  text.toUTF8.data.toList

def IsAscii (c : Char) : Prop :=
  c.toNat < 128

theorem utf8Encode_ascii {c : Char} (hAscii : IsAscii c) :
    String.utf8EncodeChar c = [c.toUInt8] := by
  apply String.utf8EncodeChar_eq_singleton
  rw [Char.utf8Size_eq_one_iff, UInt32.le_iff_toNat_le]
  exact Nat.le_of_lt_succ hAscii

theorem bytes_ofList {text : List Char} (hAscii : ∀ c ∈ text, IsAscii c) :
    bytes (String.ofList text) = text.map Char.toUInt8 := by
  change (String.ofList text).toByteArray.data.toList = _
  rw [String.toByteArray_ofList, List.utf8Encode, List.toList_data_toByteArray]
  induction text with
  | nil => rfl
  | cons c text ih =>
      obtain ⟨hFirst, hRest⟩ := List.forall_mem_cons.1 hAscii
      rw [List.flatMap_cons, utf8Encode_ascii hFirst, ih hRest]
      rfl

private theorem toNat_toUInt8 {c : Char} (hAscii : IsAscii c) : c.toUInt8.toNat = c.toNat := by
  unfold Char.toUInt8
  rw [UInt32.toNat_toUInt8]
  exact Nat.mod_eq_of_lt (Nat.lt_trans hAscii (by decide))

theorem forall_mem_map_toUInt8 {text : List Char} (hAscii : ∀ c ∈ text, IsAscii c) :
    ∀ byte ∈ text.map Char.toUInt8, byte < 128 := by
  intro byte hMember
  obtain ⟨c, hChar, rfl⟩ := List.mem_map.1 hMember
  rw [UInt8.lt_iff_toNat_lt, toNat_toUInt8 (hAscii c hChar)]
  exact hAscii c hChar

private theorem toUInt8_lt_iff {c d : Char} (hFirst : IsAscii c) (hSecond : IsAscii d) :
    c.toUInt8 < d.toUInt8 ↔ c < d := by
  rw [UInt8.lt_iff_toNat_lt, toNat_toUInt8 hFirst, toNat_toUInt8 hSecond]
  rfl

private theorem toUInt8_inj {c d : Char} (hFirst : IsAscii c) (hSecond : IsAscii d) :
    c.toUInt8 = d.toUInt8 ↔ c = d := by
  rw [← UInt8.toNat_inj, toNat_toUInt8 hFirst, toNat_toUInt8 hSecond, Char.toNat_inj]

private theorem map_toUInt8_lt_iff {text other : List Char} (hText : ∀ c ∈ text, IsAscii c)
    (hOther : ∀ c ∈ other, IsAscii c) :
    text.map Char.toUInt8 < other.map Char.toUInt8 ↔ text < other := by
  induction text generalizing other with
  | nil =>
      cases other with
      | nil => exact iff_of_false (List.not_lt_nil _) (List.not_lt_nil _)
      | cons d other => exact iff_of_true (List.nil_lt_cons _ _) (List.nil_lt_cons _ _)
  | cons c text ih =>
      cases other with
      | nil => exact iff_of_false (List.not_lt_nil _) (List.not_lt_nil _)
      | cons d other =>
          obtain ⟨hFirst, hRest⟩ := List.forall_mem_cons.1 hText
          obtain ⟨hSecond, hLater⟩ := List.forall_mem_cons.1 hOther
          rw [List.map_cons, List.map_cons, List.cons_lt_cons_iff, List.cons_lt_cons_iff,
            toUInt8_lt_iff hFirst hSecond, toUInt8_inj hFirst hSecond, ih hRest hLater]

/-- By bytes, texts of ASCII characters stand in the order of their characters. -/
theorem bytes_lt_iff {text other : List Char} (hText : ∀ c ∈ text, IsAscii c)
    (hOther : ∀ c ∈ other, IsAscii c) :
    bytes (String.ofList text) < bytes (String.ofList other) ↔
      String.ofList text < String.ofList other := by
  rw [bytes_ofList hText, bytes_ofList hOther, map_toUInt8_lt_iff hText hOther, String.lt_iff,
    String.toList_ofList, String.toList_ofList]

end LawnCalibration.Text
