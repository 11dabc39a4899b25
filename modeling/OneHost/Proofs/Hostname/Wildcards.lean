import OneHost.Proofs.Hostname.Covering
import OneHost.Proofs.Text.Decoding

/-!
# Wildcards are spelled out

Names and templates are compared in normal form, and it is the normal form whose wildcards are
looked at. Nothing is lost by that: a normal form has the labels of the text that was written, and
in each of them as many wildcards, whatever the case of the letters and whether the label is encoded
or not.
-/

namespace OneHost.Hostname

open Text (split join lowercase count_lowercase split_join length_split mem_of_mem_split
  notMem_of_mem_split)
open Text.Punycode (decode? count_decode?)

variable {mark : Char} {label : List Char} {name template : String}

/-- A character that is neither a letter, a digit nor a hyphen, and so takes no part in the coding
of labels. -/
structure IsMark (c : Char) : Prop where
  isAscii : c.toNat < 0x80
  noDigit : c.isAlphanum = false
  notHyphen : c ≠ '-'

theorem isMark_dot : IsMark '.' := ⟨by decide, by decide, by decide⟩

theorem isMark_star : IsMark '*' := ⟨by decide, by decide, by decide⟩

namespace IsMark

theorem caseless (isMark : IsMark mark) : mark.isAlpha = false := by
  have noDigit := isMark.noDigit
  rw [Char.isAlphanum, Bool.or_eq_false_iff] at noDigit
  exact noDigit.1

theorem notMem_encodedMarker (isMark : IsMark mark) : mark ∉ encodedMarker := by
  intro member
  have letters : encodedMarker.all (fun c => c.isAlphanum = true ∨ c = '-') = true := by decide
  cases of_decide_eq_true (List.all_eq_true.mp letters mark member) with
  | inl digit => exact Bool.false_ne_true (isMark.noDigit.symm.trans digit)
  | inr hyphen => exact isMark.notHyphen hyphen

theorem count_lowercase (isMark : IsMark mark) (label : List Char) :
    (lowercase label).count mark = label.count mark :=
  Text.count_lowercase isMark.isAscii isMark.caseless label

theorem count_decode? {encoded decoded : List Char} (isMark : IsMark mark)
    (decodes : decode? encoded = some decoded) : decoded.count mark = encoded.count mark :=
  Text.Punycode.count_decode? isMark.isAscii isMark.noDigit isMark.notHyphen decodes

theorem count_normalizeLabel (isMark : IsMark mark) (label : List Char) :
    (normalizeLabel label).count mark = label.count mark := by
  rw [← isMark.count_lowercase label]
  unfold normalizeLabel
  simp only
  split
  · rename_i marked
    obtain ⟨encoded, lowered⟩ := List.isPrefixOf_iff_prefix.mp marked
    rw [← lowered, List.drop_left]
    cases decodes : decode? encoded with
    | none => rfl
    | some decoded =>
      rw [List.count_append, List.count_eq_zero.mpr isMark.notMem_encodedMarker, Nat.zero_add]
      exact isMark.count_decode? decodes
  · rfl

end IsMark

/-! ## Labels of a normal form -/

/-- A normal form has the normal forms of the labels. -/
theorem split_normalize (text : List Char) :
    split '.' (normalize text) = (split '.' text).map normalizeLabel := by
  apply split_join
  · intro none
    exact Text.split_ne_nil '.' text (List.map_eq_nil_iff.mp none)
  · intro normal member
    obtain ⟨label, isLabel, rfl⟩ := List.mem_map.mp member
    rw [← List.count_eq_zero, isMark_dot.count_normalizeLabel, List.count_eq_zero]
    exact notMem_of_mem_split isLabel

/-- What is in no label that was written is in no label of the normal form. -/
theorem IsMark.notMem_normalLabel {text normal : List Char} (isMark : IsMark mark)
    (absent : mark ∉ text) (member : normal ∈ split '.' (normalize text)) : mark ∉ normal := by
  rw [split_normalize] at member
  obtain ⟨label, isLabel, rfl⟩ := List.mem_map.mp member
  rw [← List.count_eq_zero, isMark.count_normalizeLabel, List.count_eq_zero]
  intro inLabel
  exact absent (mem_of_mem_split isLabel inLabel)

theorem count_dot_normalize (text : List Char) : (normalize text).count '.' = text.count '.' := by
  have same := congrArg List.length (split_normalize text)
  rw [List.length_map, length_split, length_split] at same
  exact Nat.succ.inj same

theorem Covers.count_dot {name template : List Char} (covers : Covers template name) :
    name.count '.' = template.count '.' := by
  have same := covers.fits.length_eq
  rw [length_split, length_split] at same
  exact (Nat.succ.inj same).symm

/-- The last label that was written has no wildcard if that of the normal form has none. -/
theorem Covers.literalEnd_written {text name : List Char} (covers : Covers (normalize text) name) :
    ∀ label ∈ (split '.' text).getLast?, '*' ∉ label := by
  intro label last
  have lastNormal : (split '.' (normalize text)).getLast? = some (normalizeLabel label) := by
    rw [split_normalize, List.getLast?_map, Option.mem_def.mp last, Option.map_some]
  have literal := covers.literalEnd _ lastNormal
  rw [← List.count_eq_zero, isMark_star.count_normalizeLabel] at literal
  exact List.count_eq_zero.mp literal

/-- Whatever is written, its normal form has as many labels, and in each of them as many wildcards;
neither lower case nor decoding makes or hides a dot or a wildcard. So a template that covers a name
has as many dots as the name, and no wildcard is written in its last label. -/
theorem wildcards_are_spelled_out (text name template : String) :
    ((split '.' (normalize text.toList)).length = (split '.' text.toList).length ∧
      List.Forall₂ (fun label normal => normal = normalizeLabel label ∧
        normal.count '*' = label.count '*') (split '.' text.toList)
          (split '.' (normalize text.toList))) ∧
    (∀ mark ∈ ['.', '*'], ∀ label,
      (lowercase label).count mark = label.count mark ∧
        ∀ decoded, decode? label = some decoded → decoded.count mark = label.count mark) ∧
    (isMatched name template = true →
      name.toList.count '.' = template.toList.count '.' ∧
        ∀ label ∈ (split '.' template.toList).getLast?, '*' ∉ label) := by
  refine ⟨⟨?_, ?_⟩, ?_, ?_⟩
  · rw [split_normalize, List.length_map]
  · rw [split_normalize, List.forall₂_map_right_iff, List.forall₂_same]
    intro label _
    exact ⟨rfl, isMark_star.count_normalizeLabel label⟩
  · intro mark among label
    have isMark : IsMark mark := by
      rcases List.mem_pair.mp among with rfl | rfl
      · exact isMark_dot
      · exact isMark_star
    exact ⟨isMark.count_lowercase label, fun _ decodes => isMark.count_decode? decodes⟩
  · intro matched
    have covers := matchesNormal_iff_covers.mp matched
    constructor
    · rw [← count_dot_normalize, covers.count_dot, count_dot_normalize]
    · exact covers.literalEnd_written

/-- A wildcard in the literal part of an encoded label is one of the normal form, and covers. -/
theorem wildcards_are_spelled_out_encoded :
    isMatched "foo.com" "xn--*-.com" = true ∧
      "foo.com".toList.count '.' = "xn--*-.com".toList.count '.' ∧
      (split '.' (normalize "xn--*-.com".toList)).length = 2 := by
  have matched : isMatched "foo.com" "xn--*-.com" = true := by decide +kernel
  obtain ⟨⟨labels, _⟩, _, ends⟩ :=
    wildcards_are_spelled_out "xn--*-.com" "foo.com" "xn--*-.com"
  exact ⟨matched, (ends matched).1, labels.trans rfl⟩

end OneHost.Hostname
