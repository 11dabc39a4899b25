import Mathlib.Data.List.Forall2
import OneHost.Hostname.Matching
import OneHost.Proofs.Text.Lettering

/-!
# The case of ASCII letters is no part of a name

A capital of ASCII is lowered in the same way whatever stands around it, and what else stands in a
name is lowered in the same way whether the ASCII letters next to it are capitals or not; only then
is the marker of an encoded label looked for and the label decoded. So names that differ in the case
of ASCII letters have one normal form, and so do templates.
-/

namespace OneHost.Hostname

open Text (forall_ascii lowercase_map_toLower split_map toLower_eq_iff toLower_toLower
  toNat_lt_of_isAlphanum)

/-- Two characters are the same but for the case of an ASCII letter. -/
inductive SameLetter : Char → Char → Prop
  | same (c : Char) : SameLetter c c
  | lowered {c : Char} (capital : c.isUpper = true) : SameLetter c c.toLower
  | raised {c : Char} (small : c.isLower = true) : SameLetter c c.toUpper

/-- One text is the other with some of its ASCII letters written in the other case. -/
def Recased (text other : List Char) : Prop :=
  List.Forall₂ SameLetter text other

/-! ## Characters -/

/-- A capital is found again from its small letter. -/
theorem capital_of_isUpper {c : Char} (capital : c.isUpper = true) :
    c.toLower.isLower = true ∧ c.toLower.toUpper = c := by
  have isLetter : c.isAlpha = true := Bool.or_eq_true_iff.mpr (.inl capital)
  have isAscii : c.toNat < 0x80 :=
    toNat_lt_of_isAlphanum (by rw [Char.isAlphanum, isLetter, Bool.true_or])
  exact forall_ascii
    (fun c => c.isUpper = true → c.toLower.isLower = true ∧ c.toLower.toUpper = c) (by decide) c
    isAscii capital

theorem toLower_toUpper_of_isLower {c : Char} (small : c.isLower = true) :
    c.toUpper.toLower = c.toLower := by
  have isLetter : c.isAlpha = true := Bool.or_eq_true_iff.mpr (.inr small)
  have isAscii : c.toNat < 0x80 :=
    toNat_lt_of_isAlphanum (by rw [Char.isAlphanum, isLetter, Bool.true_or])
  exact forall_ascii (fun c => c.toUpper.toLower = c.toLower) (by decide) c isAscii

theorem toLower_of_not_isUpper {c : Char} (noCapital : ¬c.isUpper = true) : c.toLower = c :=
  dif_neg fun within => noCapital (decide_eq_true within)

/-- Characters are the same but for case exactly if their small letters are the same. -/
theorem sameLetter_iff {c other : Char} : SameLetter c other ↔ c.toLower = other.toLower := by
  constructor
  · intro sameLetter
    cases sameLetter with
    | same => rfl
    | lowered _ => exact (toLower_toLower c).symm
    | raised small => exact (toLower_toUpper_of_isLower small).symm
  · intro small
    by_cases capital : c.isUpper = true
    · by_cases otherCapital : other.isUpper = true
      · have own : c = other := by
          rw [← (capital_of_isUpper capital).2, small, (capital_of_isUpper otherCapital).2]
        rw [own]
        exact .same other
      · rw [← toLower_of_not_isUpper otherCapital, ← small]
        exact .lowered capital
    · rw [toLower_of_not_isUpper capital] at small
      by_cases otherCapital : other.isUpper = true
      · rw [← (capital_of_isUpper otherCapital).2, ← small]
        apply SameLetter.raised
        rw [small]
        exact (capital_of_isUpper otherCapital).1
      · rw [small, toLower_of_not_isUpper otherCapital]
        exact .same other

instance (c other : Char) : Decidable (SameLetter c other) :=
  decidable_of_iff _ sameLetter_iff.symm

instance (text other : List Char) : Decidable (Recased text other) :=
  inferInstanceAs (Decidable (List.Forall₂ SameLetter text other))

theorem Recased.toLower_eq {text other : List Char} (recased : Recased text other) :
    text.map Char.toLower = other.map Char.toLower := by
  induction recased with
  | nil => rfl
  | cons sameLetter _ ih => rw [List.map_cons, List.map_cons, sameLetter_iff.mp sameLetter, ih]

/-! ## Normal forms -/

/-- A label is lowered before anything else is looked at. -/
theorem normalizeLabel_map_toLower (label : List Char) :
    normalizeLabel (label.map Char.toLower) = normalizeLabel label := by
  simp only [normalizeLabel, lowercase_map_toLower]

theorem normalize_map_toLower (name : List Char) :
    normalize (name.map Char.toLower) = normalize name := by
  have dots : ∀ c : Char, c.toLower = '.' ↔ c = '.' := toLower_eq_iff (by decide)
  have labels : normalizeLabel ∘ List.map Char.toLower = normalizeLabel :=
    funext normalizeLabel_map_toLower
  rw [normalize, normalize, split_map dots, List.map_map, labels]

theorem Recased.normalize_eq {text other : List Char} (recased : Recased text other) :
    normalize text = normalize other := by
  rw [← normalize_map_toLower text, recased.toLower_eq, normalize_map_toLower]

/-- Whether a template covers a name does not depend on the case in which the ASCII letters of
either are written: those of the marker and of the encoded part of a label, those around a wildcard
and those next to other letters are all read alike. -/
theorem isMatched_of_recased {name other template written : String}
    (recasedName : Recased name.toList other.toList)
    (recasedTemplate : Recased template.toList written.toList) :
    isMatched name template = isMatched other written := by
  rw [isMatched, isMatched, recasedName.normalize_eq, recasedTemplate.normalize_eq]

/-- Encoded labels, a capital sigma at the end of a word and a wildcard, each written twice. -/
theorem isMatched_of_recased_labels :
    isMatched "shop-ΟΔΟΣ.Xn--Bcher-KVA.example" "S*Σ.bücher.EXAMPLE" =
        isMatched "SHOP-ΟΔΟΣ.xN--bCHER-kva.Example" "s*Σ.bücher.example" ∧
      isMatched "a.XN--bcher-kva.com" "*.BüCHER.com" =
        isMatched "A.xn--BCHER-KVA.Com" "*.büCHer.COM" ∧
      isMatched "a.XN--bcher-kva.com" "*.BüCHER.com" = true :=
  ⟨isMatched_of_recased (by decide +kernel) (by decide +kernel),
    isMatched_of_recased (by decide +kernel) (by decide +kernel), by decide +kernel⟩

end OneHost.Hostname
