import Mathlib.Data.String.Basic
import OneHost.Proofs.Text.Lettering
import OneHost.Text.Utf8

/-!
# The bytes of a text

A text is written character by character, so what its bytes are like is a question about each of its
characters. A character of ASCII is one byte, which is its code; every byte of any other character
lies above ASCII.
-/

namespace OneHost.Text

/-- By induction on the bytes that are still to be read. -/
theorem toList_loop (bytes : ByteArray) (index : Nat) (read : List UInt8) :
    ByteArray.toList.loop bytes index read = read.reverse ++ bytes.data.toList.drop index := by
  fun_induction ByteArray.toList.loop bytes index read with
  | case1 index read within ih =>
    have within : index < bytes.data.toList.length := within
    rw [ih, List.drop_eq_getElem_cons within, List.reverse_cons, List.append_assoc,
      ByteArray.get!, getElem!_pos bytes.data index within]
    rfl
  | case2 index read beyond =>
    have beyond : bytes.data.toList.length ≤ index := Nat.not_lt.mp beyond
    rw [List.drop_eq_nil_of_le beyond, List.append_nil]

theorem encode_eq_toList (text : String) : encode text = text.toByteArray.data.toList := by
  rw [encode, ByteArray.toList, toList_loop]
  rfl

theorem encode_eq_flatMap (text : String) :
    encode text = text.toList.flatMap String.utf8EncodeChar := by
  have written : text.toByteArray = (text.toList.flatMap String.utf8EncodeChar).toByteArray :=
    String.utf8Encode_toList.symm
  rw [encode_eq_toList, written, List.toList_data_toByteArray]

/-- Bytes are read as a text just when they are those in which it is written. -/
theorem decode?_eq_some_iff {bytes : Bytes} {text : String} :
    decode? bytes = some text ↔ bytes = encode text := by
  rw [encode_eq_toList]
  constructor
  · intro isText
    by_cases valid : (⟨bytes.toArray⟩ : ByteArray).IsValidUTF8
    · rw [decode?, String.fromUTF8?, dif_pos valid] at isText
      cases isText
      rfl
    · rw [decode?, String.fromUTF8?, dif_neg valid] at isText
      contradiction
  · rintro rfl
    exact dif_pos text.isValidUTF8

theorem utf8EncodeChar_of_ascii {c : Char} (isAscii : c.toNat < 0x80) :
    String.utf8EncodeChar c = [UInt8.ofNat c.toNat] := by
  have first : c.val.toNat ≤ 0x7f := Nat.le_of_lt_succ isAscii
  exact if_pos first

/-- The byte at the front of a character outside ASCII, and each that continues one, has its highest
bit set. -/
theorem le_of_mem_utf8EncodeChar {c : Char} (foreign : 0x80 ≤ c.toNat) {byte : UInt8}
    (among : byte ∈ String.utf8EncodeChar c) : 0x80 ≤ byte := by
  have above {low range value : Nat} (bounded : low + range ≤ 0x100) (high : 0x80 ≤ low)
      (small : value < range) : (0x80 : UInt8) ≤ UInt8.ofNat (value + low) := by
    rw [UInt8.le_iff_toNat_le, UInt8.toNat_ofNat', Nat.mod_eq_of_lt (by omega)]
    exact Nat.le_trans high (Nat.le_add_left ..)
  have notFirst : ¬c.val.toNat ≤ 0x7f := Nat.not_le.mpr foreign
  revert among
  unfold String.utf8EncodeChar
  simp only [notFirst, if_false]
  split
  · simp only [List.mem_cons, List.not_mem_nil, or_false]
    rintro (rfl | rfl) <;> exact above (by decide) (by decide) (Nat.mod_lt _ (by decide))
  · split
    · simp only [List.mem_cons, List.not_mem_nil, or_false]
      rintro (rfl | rfl | rfl) <;> exact above (by decide) (by decide) (Nat.mod_lt _ (by decide))
    · simp only [List.mem_cons, List.not_mem_nil, or_false]
      rintro (rfl | rfl | rfl | rfl) <;>
        exact above (by decide) (by decide) (Nat.mod_lt _ (by decide))

theorem utf8ByteSize_of_ascii {text : List Char} (isAscii : IsAscii text) :
    (String.ofList text).utf8ByteSize = text.length := by
  rw [String.utf8ByteSize_ofList]
  induction text with
  | nil => rfl
  | cons c rest ih =>
    have size : c.utf8Size = 1 := by
      rw [← String.length_utf8EncodeChar, utf8EncodeChar_of_ascii (isAscii c List.mem_cons_self)]
      rfl
    rw [String.utf8Len_cons, size,
      ih fun other among => isAscii other (List.mem_cons_of_mem c among)]
    rfl

end OneHost.Text
