import Mathlib.Data.Nat.Basic
import OneHost.Text.Number

/-!
# Numerals

What it means for a text to be a number is said here without regard to how it is read: there is at
least one decimal digit, perhaps with a plus sign in front, and the digits have the number as their
value. Reading finds just these texts, as long as the number is not too large.
-/

namespace OneHost.Text

variable {greatest value number : Nat} {digits : List Char} {text : String}

/-- A text is a numeral of a number: decimal digits, with a plus sign in front of them or not. -/
def Spells (text : String) (number : Nat) : Prop :=
  ∃ digits : List Char, (text.toList = digits ∨ text.toList = '+' :: digits) ∧ digits ≠ [] ∧
    (∀ c ∈ digits, c.isDigit = true) ∧ Nat.ofDigitChars 10 digits 0 = number

/-- Digits that follow a value make it no smaller. -/
theorem le_ofDigitChars (digits : List Char) (value : Nat) :
    value ≤ Nat.ofDigitChars 10 digits value := by
  have positive : 1 ≤ 10 ^ digits.length := Nat.one_le_pow _ _ (by decide)
  rw [Nat.ofDigitChars_eq_ofDigitChars_zero]
  calc value
      = 1 * value := (Nat.one_mul value).symm
    _ ≤ 10 ^ digits.length * value := Nat.mul_le_mul_right value positive
    _ ≤ 10 ^ digits.length * value + Nat.ofDigitChars 10 digits 0 := Nat.le_add_right ..

/-- By induction on the digits. The value is within the bound before each of them, because the whole
number is at least as large. -/
theorem readDigits_eq_ok_iff (within : value ≤ greatest) :
    readDigits greatest value digits = .ok number ↔
      (∀ c ∈ digits, c.isDigit = true) ∧ Nat.ofDigitChars 10 digits value = number ∧
        number ≤ greatest := by
  induction digits generalizing value with
  | nil =>
    simp only [readDigits, Except.ok.injEq, Nat.ofDigitChars_nil, List.not_mem_nil, false_imp_iff,
      implies_true, true_and]
    constructor
    · rintro rfl
      exact ⟨rfl, within⟩
    · exact And.left
  | cons c rest ih =>
    rw [readDigits, Nat.ofDigitChars_cons, List.forall_mem_cons, Nat.mul_comm 10 value]
    by_cases isDigit : c.isDigit = true
    · rw [if_pos isDigit]
      dsimp only
      by_cases still : value * 10 + (c.toNat - '0'.toNat) ≤ greatest
      · rw [if_pos still, ih still, and_iff_right isDigit]
      · rw [if_neg still]
        refine iff_of_false (by simp) ?_
        rintro ⟨_, rfl, small⟩
        exact still (Nat.le_trans (le_ofDigitChars rest _) small)
    · rw [if_neg isDigit]
      exact iff_of_false (by simp) fun parts => isDigit parts.1.1

/-- No digit is a plus sign, so a text is a numeral in one way only. -/
theorem readNumber_eq_ok_iff :
    readNumber greatest text = .ok number ↔ Spells text number ∧ number ≤ greatest := by
  have plus : '+'.isDigit = false := by decide
  unfold readNumber Spells
  split
  · rename_i none
    simp [none]
  · rename_i sign
    simp [sign, plus]
  · rename_i digits _ signed
    rw [readDigits_eq_ok_iff (Nat.zero_le _), signed]
    constructor
    · rintro ⟨areDigits, isValue, small⟩
      refine ⟨⟨digits, .inr rfl, ?_, areDigits, isValue⟩, small⟩
      rintro rfl
      contradiction
    · rintro ⟨⟨digits, isText | isText, _, areDigits, isValue⟩, small⟩
      · rw [← isText] at areDigits
        exact absurd (areDigits '+' List.mem_cons_self) (by simp [plus])
      · cases isText
        exact ⟨areDigits, isValue, small⟩
  · rename_i occupied _ unsigned
    rw [readDigits_eq_ok_iff (Nat.zero_le _)]
    constructor
    · rintro ⟨areDigits, isValue, small⟩
      exact ⟨⟨text.toList, .inl rfl, occupied, areDigits, isValue⟩, small⟩
    · rintro ⟨⟨digits, isText | isText, _, areDigits, isValue⟩, small⟩
      · rw [isText]
        exact ⟨areDigits, isValue, small⟩
      · exact absurd isText (unsigned digits)

/-- A number is read again from its decimal digits. -/
theorem spells_decimal (number : Nat) : Spells (decimal number) number := by
  refine ⟨Nat.toDigits 10 number, .inl (String.toList_ofList ..), Nat.toDigits_ne_nil, ?_,
    Nat.ofDigitChars_ten_toDigits⟩
  intro c among
  exact Nat.isDigit_of_mem_toDigits (by decide) (by decide) among

end OneHost.Text
