import OneHost.Certificate.Identities
import OneHost.Hostname.ServerName
import OneHost.Proofs.Hostname.Spelling

/-!
# Hosts that are covered by their own names

A certificate may name a host just as the host is written. Whether that covers the host is decided
by its normal form, which has to be a valid name of its own: an encoded label is looked at in the
script that it stands for, where a sign that is neither a letter nor a digit, or a length in bytes,
may be refused that the letters and digits of the encoding have hidden.
-/

namespace OneHost.Hostname

open Text (IsAscii split join lowercase mem_of_mem_split join_split split_map split_ne_nil
  lowercase_of_ascii toLower_eq_iff forall_ascii isAlphanumeric_of_ascii exists_piece_of_mem
  toNat_lt_of_isAlphanum)
open Text.Punycode (decode?)

variable {label decoded name : List Char} {host : String}

/-- A label is an encoding of a text: it begins with the marker, in letters of either case, and what
follows decodes to the text. -/
def Encodes (label decoded : List Char) : Prop :=
  ∃ encoded, label.map Char.toLower = encodedMarker ++ encoded ∧ decode? encoded = some decoded

/-! ## Case -/

theorem isLabelChar_toLower {c : Char} (isAscii : c.toNat < 0x80) :
    isLabelChar c.toLower = isLabelChar c := by
  have alphanum : c.toLower.isAlphanum = c.isAlphanum :=
    forall_ascii (fun c => c.toLower.isAlphanum = c.isAlphanum) (by decide) c isAscii
  have mark {mark : Char} (caseless : mark.isAlpha = false) :
      (c.toLower == mark) = (c == mark) := by
    rw [Bool.eq_iff_iff, beq_iff_eq, beq_iff_eq]
    exact toLower_eq_iff caseless c
  have hyphen : (c.toLower == '-') = (c == '-') := mark (by decide)
  have underscore : (c.toLower == '_') = (c == '_') := mark (by decide)
  rw [isLabelChar, isLabelChar, isAlphanumeric_of_ascii (Text.toLower_ascii isAscii),
    isAlphanumeric_of_ascii isAscii, alphanum, hyphen, underscore]

/-- An ASCII text has one byte for each character. -/
theorem byteLength_of_ascii (isAscii : IsAscii name) : byteLength name = name.length := by
  have size (c : Char) (isAscii : c.toNat < 0x80) : c.utf8Size = 1 :=
    forall_ascii (fun c => c.utf8Size = 1) (by decide) c isAscii
  induction name with
  | nil => rfl
  | cons c rest ih =>
    have rest := ih fun d member => isAscii d (List.mem_cons_of_mem c member)
    simp only [byteLength, List.foldr_cons, List.length_cons] at rest ⊢
    rw [rest, size c (isAscii c List.mem_cons_self), Nat.add_comm]

theorem byteLength_toLower (isAscii : IsAscii name) :
    byteLength (name.map Char.toLower) = byteLength name := by
  rw [byteLength_of_ascii isAscii, byteLength_of_ascii isAscii.toLower, List.length_map]

theorem isValidLabel_toLower (isAscii : IsAscii label) :
    isValidLabel (label.map Char.toLower) = isValidLabel label := by
  have hyphen (edge : Option Char) : (edge.map Char.toLower != some '-') = (edge != some '-') := by
    rw [Bool.eq_iff_iff, bne_iff_ne, bne_iff_ne]
    cases edge with
    | none => rfl
    | some c => simp [toLower_eq_iff]
  have chars : (label.map Char.toLower).all isLabelChar = label.all isLabelChar := by
    rw [List.all_map, Bool.eq_iff_iff, List.all_eq_true, List.all_eq_true]
    apply forall₂_congr
    intro c member
    rw [Function.comp_apply, isLabelChar_toLower (isAscii c member)]
  simp only [isValidLabel, List.isEmpty_map, byteLength_toLower isAscii, List.head?_map,
    List.getLast?_map, hyphen, chars]

/-! ## Labels -/

/-- The normal form of a valid label is valid unless the label encodes a text that is not. -/
theorem isValidLabel_normalizeLabel_iff (isAscii : IsAscii label)
    (valid : isValidLabel label = true) :
    isValidLabel (normalizeLabel label) = true ↔
      ∀ decoded, Encodes label decoded → isValidLabel decoded = true := by
  have lowered : isValidLabel (label.map Char.toLower) = true :=
    (isValidLabel_toLower isAscii).trans valid
  unfold normalizeLabel Encodes
  simp only [lowercase_of_ascii isAscii]
  split
  · rename_i marked
    obtain ⟨encoded, isMarked⟩ := List.isPrefixOf_iff_prefix.mp marked
    rw [← isMarked, List.drop_left]
    cases decodes : decode? encoded with
    | none =>
      -- A label that does not decode stays as it is, and encodes nothing.
      rw [Option.getD_none, isMarked]
      apply iff_of_true lowered
      intro decoded encodes
      obtain ⟨other, same, decodesOther⟩ := encodes
      rw [← isMarked, List.append_cancel_left_eq] at same
      rw [← same, decodes] at decodesOther
      contradiction
    | some decoded =>
      rw [Option.getD_some]
      constructor
      · intro validDecoded other encodes
        obtain ⟨rest, same, decodesOther⟩ := encodes
        rw [List.append_cancel_left_eq] at same
        rw [← same, decodes] at decodesOther
        exact Option.some.inj decodesOther ▸ validDecoded
      · intro every
        exact every decoded ⟨encoded, rfl, decodes⟩
  · rename_i unmarked
    apply iff_of_true lowered
    intro decoded encodes
    obtain ⟨encoded, isMarked, _⟩ := encodes
    exact absurd (List.isPrefixOf_iff_prefix.mpr ⟨encoded, isMarked.symm⟩) unmarked

/-! ## Names -/

theorem isDomainName_of_parse? (parsed : ServerName.parse? host = some (.dns host)) :
    ServerName.isDomainName host.toList = true := by
  unfold ServerName.parse? at parsed
  split at parsed
  · assumption
  · cases address : Ip.parse? host <;> simp [address] at parsed

theorem isAscii_of_isDomainName (isDomain : ServerName.isDomainName name = true) :
    IsAscii name := by
  have domainChar (c : Char) (isChar : ServerName.isDomainChar c = true) : c.toNat < 0x80 := by
    simp only [ServerName.isDomainChar, Bool.or_eq_true, beq_iff_eq] at isChar
    rcases isChar with (alphanum | rfl) | rfl
    · exact toNat_lt_of_isAlphanum alphanum
    · decide
    · decide
  simp only [ServerName.isDomainName, ServerName.isDomainLabel, Bool.and_eq_true,
    List.all_eq_true] at isDomain
  obtain ⟨⟨_, labels⟩, _⟩ := isDomain
  intro c member
  by_cases dot : c = '.'
  · rw [dot]
    decide
  · have written : c ∈ ServerName.withoutFinalDot name := by
      unfold ServerName.withoutFinalDot
      split
      · rename_i final
        have shape := List.dropLast_append_getLast? '.' (beq_iff_eq.mp final)
        rw [← shape] at member
        cases List.mem_append.mp member with
        | inl before => exact before
        | inr last => exact absurd (List.mem_singleton.mp last) dot
      · exact member
    obtain ⟨label, isLabel, inLabel⟩ := exists_piece_of_mem written dot
    exact domainChar c ((labels label isLabel).2 c inLabel)

/-- A valid name has no wildcards. -/
theorem star_notMem_of_isValidName (valid : isValidName name = true) : '*' ∉ name := by
  intro member
  simp only [isValidName, isValidLabel, Bool.and_eq_true, List.all_eq_true] at valid
  obtain ⟨label, isLabel, inLabel⟩ := exists_piece_of_mem member (by decide : '*' ≠ '.')
  have isChar := (valid.2 label isLabel).2 '*' inLabel
  exact absurd isChar (by decide)

theorem fillWildcards_of_literal (literal : '*' ∉ name) : fillWildcards name = name := by
  rw [fillWildcards_eq_map]
  calc name.map fill
    _ = name.map id := by
      apply List.map_congr_left
      intro c member
      apply if_neg
      intro star
      exact literal (star ▸ member)
    _ = name := List.map_id name

/-- A name without wildcards covers itself if its normal form is a valid name, and only then. -/
theorem isMatched_self_iff (literal : '*' ∉ host.toList) :
    isMatched host host = true ↔ isValidName (normalize host.toList) = true := by
  have literalLabels : ∀ label ∈ split '.' (normalize host.toList), '*' ∉ label :=
    fun _ member => isMark_star.notMem_normalLabel literal member
  have literalNormal : '*' ∉ normalize host.toList := by
    intro member
    obtain ⟨label, isLabel, inLabel⟩ := exists_piece_of_mem member (by decide : '*' ≠ '.')
    exact literalLabels label isLabel inLabel
  have legal : hasIllegalWildcard (normalize host.toList) = false := by
    rw [hasIllegalWildcard, Text.splitLast?_eq_none_iff.mpr literalNormal]
  have fits : List.Forall₂ LabelFits (split '.' (normalize host.toList))
      (split '.' (normalize host.toList)) := by
    apply List.forall₂_same.mpr
    intro label isLabel
    exact .inl ⟨literalLabels label isLabel, rfl⟩
  rw [isMatched, matchesNormal_eq_true_iff, fillWildcards_of_literal literalNormal]
  constructor
  · intro matched
    exact matched.2.2.2.1
  · intro valid
    have occupied : normalize host.toList ≠ [] := by
      intro empty
      rw [empty] at valid
      exact absurd valid (by decide)
    exact ⟨occupied, occupied, legal, valid, fits⟩

/-- The normal form of an ordinary name is the name in lower case. -/
theorem normalize_of_ordinary (ordinary : Ordinary name) :
    normalize name = name.map Char.toLower := by
  have dots (c : Char) : c.toLower = '.' ↔ c = '.' := toLower_eq_iff (by decide) c
  rw [← join_split '.' (name.map Char.toLower), split_map dots, normalize]
  apply congrArg (join '.')
  apply List.map_congr_left
  intro label isLabel
  have isAscii : IsAscii label := fun c inLabel =>
    ordinary.isAscii c (mem_of_mem_split isLabel inLabel)
  exact normalizeLabel_of_unmarked isAscii (ordinary.unmarked label isLabel)

/-- The normal form of a valid ASCII name is a valid name, unless it has become too long or a label
encodes a text that is no valid label. -/
theorem isValidName_normalize_iff (isAscii : IsAscii name) (valid : isValidName name = true) :
    isValidName (normalize name) = true ↔
      byteLength (normalize name) ≤ maxNameLength ∧
        ∀ label ∈ split '.' name, ∀ decoded, Encodes label decoded →
          isValidLabel decoded = true := by
  have labels : ∀ label ∈ split '.' name, isValidLabel label = true := by
    simp only [isValidName, Bool.and_eq_true, List.all_eq_true] at valid
    exact valid.2
  have normalLabels : (split '.' (normalize name)).all isValidLabel = true ↔
      ∀ label ∈ split '.' name, ∀ decoded, Encodes label decoded →
        isValidLabel decoded = true := by
    rw [split_normalize, List.all_map, List.all_eq_true]
    apply forall₂_congr
    intro label isLabel
    exact isValidLabel_normalizeLabel_iff
      (fun c inLabel => isAscii c (mem_of_mem_split isLabel inLabel)) (labels label isLabel)
  have occupied (allValid : (split '.' (normalize name)).all isValidLabel = true) :
      (normalize name).isEmpty = false := by
    apply List.isEmpty_eq_false_iff.mpr
    intro empty
    rw [empty] at allValid
    exact absurd allValid (by decide)
  simp only [isValidName, Bool.and_eq_true, Bool.not_eq_true', decide_eq_true_eq, normalLabels]
  constructor
  · intro isValid
    exact ⟨isValid.1.2, isValid.2⟩
  · intro isValid
    exact ⟨⟨occupied (normalLabels.mpr isValid.2), isValid.1⟩, isValid.2⟩

/-- A certificate whose only domain name is the host itself passes for a host that is a valid name
and a server name just when the normal form of the host is a valid name again: it is not too long,
and each label that is an encoding stands for a valid label. A host without encoded labels always
passes. -/
theorem own_name_covers_iff (valid : isValidName host.toList = true)
    (isDomain : ServerName.parse? host = some (.dns host)) :
    (∀ commonNames, Certificate.Identities.check ⟨[host], commonNames⟩ host = .ok () ↔
      isMatched host host = true) ∧
    (isMatched host host = true ↔ isValidName (normalize host.toList) = true) ∧
    (isMatched host host = true ↔
      byteLength (normalize host.toList) ≤ maxNameLength ∧
        ∀ label ∈ split '.' host.toList, ∀ decoded, Encodes label decoded →
          isValidLabel decoded = true) ∧
    ((∀ label ∈ split '.' host.toList, ¬IsMarked label) → isMatched host host = true) := by
  have isAscii := isAscii_of_isDomainName (isDomainName_of_parse? isDomain)
  have own := isMatched_self_iff (star_notMem_of_isValidName valid)
  have normal := isValidName_normalize_iff isAscii valid
  refine ⟨?_, own, own.trans normal, ?_⟩
  · intro commonNames
    rw [Certificate.Identities.check_eq_ok]
    simp [Certificate.Identities.covers]
  · intro unmarked
    apply own.mpr
    apply normal.mpr
    constructor
    · rw [normalize_of_ordinary ⟨isAscii, unmarked⟩, byteLength_toLower isAscii]
      simp only [isValidName, Bool.and_eq_true, decide_eq_true_eq] at valid
      exact valid.1.2
    · intro label isLabel decoded encodes
      obtain ⟨encoded, isMarked, _⟩ := encodes
      exact absurd ⟨encoded, isMarked.symm⟩ (unmarked label isLabel)

/-- An encoded label that stands for letters. -/
theorem own_name_covers_iff_letters :
    Certificate.Identities.check ⟨["xn--bcher-kva.example"], []⟩ "xn--bcher-kva.example" =
      .ok () := by
  have isDomain : ServerName.parse? "xn--bcher-kva.example" =
      some (.dns "xn--bcher-kva.example") := by decide +kernel
  have covers := own_name_covers_iff (by decide +kernel) isDomain
  exact (covers.1 []).mpr (covers.2.1.mpr (by decide +kernel))

/-- Two hosts that are not covered by their own names: the encoded label of the one has a sign that
joins letters, and that of the other stands for a text of 64 bytes. -/
theorem own_name_does_not_cover :
    (isValidName "xn--j2bd4cyah0f.example".toList = true ∧
      ServerName.parse? "xn--j2bd4cyah0f.example" = some (.dns "xn--j2bd4cyah0f.example") ∧
      isMatched "xn--j2bd4cyah0f.example" "xn--j2bd4cyah0f.example" = false) ∧
    isValidName "xn--tdaaaaaaaaaaaaaaaaaaaaaaaaaaaaaaaa.example".toList = true ∧
      ServerName.parse? "xn--tdaaaaaaaaaaaaaaaaaaaaaaaaaaaaaaaa.example" =
        some (.dns "xn--tdaaaaaaaaaaaaaaaaaaaaaaaaaaaaaaaa.example") ∧
      isMatched "xn--tdaaaaaaaaaaaaaaaaaaaaaaaaaaaaaaaa.example"
        "xn--tdaaaaaaaaaaaaaaaaaaaaaaaaaaaaaaaa.example" = false := by
  decide +kernel

end OneHost.Hostname
