import OneHost.Address.Socket

/-!
# The characters of addresses

Addresses are written with digits, the letters of hexadecimal digits, dots, colons and brackets, so
none of the characters that end an authority stands in the text of one.
-/

namespace OneHost

/-- The characters that the text of an address can have. -/
def isAddressChar (c : Char) : Bool :=
  c.isAlphanum || c = '.' || c = ':' || c = '[' || c = ']'

theorem isAlphanum_digitChar {digit : Nat} (isDigit : digit < 16) :
    digit.digitChar.isAlphanum = true := by
  have all : ∀ digit < 16, (Nat.digitChar digit).isAlphanum = true := by decide
  exact all digit isDigit

/-- By induction on the number: what is left after its last digit is smaller. -/
theorem isAlphanum_toDigits {base : Nat} (several : 1 < base) (atMost : base ≤ 16)
    (number : Nat) : (Nat.toDigits base number).all Char.isAlphanum = true := by
  induction number using Nat.strongRecOn with
  | ind number ih =>
    rw [Nat.toDigits_eq_if several]
    split
    · rename_i small
      simpa using isAlphanum_digitChar (Nat.lt_of_lt_of_le small atMost)
    · rename_i large
      have positive : 0 < number := by omega
      have front := ih (number / base) (Nat.div_lt_self positive several)
      have last := isAlphanum_digitChar
        (Nat.lt_of_lt_of_le (Nat.mod_lt number (Nat.zero_lt_of_lt several)) atMost)
      rw [List.all_append, front]
      simpa using last

theorem isAlphanum_decimal (number : Nat) :
    (Text.decimal number).toList.all Char.isAlphanum = true := by
  rw [Text.decimal, String.toList_ofList]
  exact isAlphanum_toDigits (by decide) (by decide) number

theorem Ipv6.isAlphanum_groupText (group : UInt16) :
    (groupText group).toList.all Char.isAlphanum = true := by
  rw [groupText, String.toList_ofList]
  exact isAlphanum_toDigits (by decide) (by decide) group.toNat

theorem isAddressChar_of_isAlphanum {text : List Char}
    (alphanum : text.all Char.isAlphanum = true) : text.all isAddressChar = true := by
  rw [List.all_eq_true] at alphanum ⊢
  intro c inText
  simp [isAddressChar, alphanum c inText]

theorem isAddressChar_decimal (number : Nat) :
    (Text.decimal number).toList.all isAddressChar = true :=
  isAddressChar_of_isAlphanum (isAlphanum_decimal number)

theorem Ipv4.isAddressChar_text (ip : Ipv4) : ip.text.toList.all isAddressChar = true := by
  have dot : isAddressChar '.' = true := by decide
  simp [text, isAddressChar_decimal, dot]

theorem Ipv6.isAddressChar_groupText (group : UInt16) :
    (groupText group).toList.all isAddressChar = true :=
  isAddressChar_of_isAlphanum (isAlphanum_groupText group)

theorem Ipv6.isAddressChar_groupsText (groups : List UInt16) :
    (groupsText groups).toList.all isAddressChar = true := by
  have colon : ":".toList.all isAddressChar = true := by decide
  induction groups with
  | nil => rfl
  | cons group rest ih =>
    cases rest with
    | nil => simpa [groupsText] using isAddressChar_groupText group
    | cons next rest =>
      simp only [groupsText, List.map_cons] at ih ⊢
      rw [String.intercalate_cons_cons, String.toList_append, String.toList_append,
        List.all_append, List.all_append, isAddressChar_groupText, colon, ih]
      rfl

theorem Ipv6.isAddressChar_text (ip : Ipv6) : ip.text.toList.all isAddressChar = true := by
  have embedding : "::ffff:".toList.all isAddressChar = true := by decide
  have gap : "::".toList.all isAddressChar = true := by decide
  rw [text]
  split
  · rename_i inner _
    rw [String.toList_append, List.all_append, embedding, inner.isAddressChar_text]
    rfl
  · dsimp only
    split
    · simp only [String.toList_append, List.all_append, isAddressChar_groupsText, gap]
      rfl
    · exact isAddressChar_groupsText _

theorem SocketAddress.isAddressChar_text (socket : SocketAddress) :
    socket.text.toList.all isAddressChar = true := by
  have colon : isAddressChar ':' = true := by decide
  have opening : isAddressChar '[' = true := by decide
  have closing : isAddressChar ']' = true := by decide
  obtain ⟨ip, port⟩ := socket
  cases ip with
  | v4 address => simp [text, address.isAddressChar_text, isAddressChar_decimal, colon]
  | v6 address =>
    simp [text, address.isAddressChar_text, isAddressChar_decimal, colon, opening, closing]

end OneHost
