import OneHost.Proofs.Hostname.Wildcards

/-!
# How a certificate may spell a host

A template without wildcards covers an ordinary ASCII name only if it spells it, label by label: in
letters of either case, among which the Kelvin sign counts as a `k`, or as an encoded label that
consists of the label and a hyphen, with no numbers behind it. Any other template stands for another
host.
-/

namespace OneHost.Hostname

open Text (IsAscii split join letter lowercase mem_of_mem_split join_split split_map
  lowercase_of_ascii lowercase_eq_letters toLower_eq_iff)
open Text.Punycode (decode? eq_of_decode?_ascii)

variable {label spelling : List Char} {name template : String}

/-- A label of a template spells a label of a host. -/
inductive Spells (label spelling : List Char) : Prop
  | plainly (same : spelling.map letter = label.map Char.toLower)
  | encoded (same : spelling.map letter = encodedMarker ++ label.map Char.toLower ++ ['-'])

/-- A label begins like an encoded label, in letters of either case. -/
def IsMarked (label : List Char) : Prop :=
  encodedMarker <+: label.map Char.toLower

/-- An ordinary name: ASCII, with no label that begins like an encoded one. -/
structure Ordinary (name : List Char) : Prop where
  isAscii : IsAscii name
  unmarked : ∀ label ∈ split '.' name, ¬IsMarked label

/-! ## Labels -/

theorem normalizeLabel_of_unmarked (isAscii : IsAscii label) (unmarked : ¬IsMarked label) :
    normalizeLabel label = label.map Char.toLower := by
  have lowered := lowercase_of_ascii isAscii
  unfold normalizeLabel
  rw [lowered, if_neg]
  intro marked
  exact unmarked (List.isPrefixOf_iff_prefix.mp marked)

/-- Whatever has the normal form of an ordinary label spells the label. -/
theorem spells_of_normalizeLabel (isAscii : IsAscii label) (unmarked : ¬IsMarked label)
    (occupied : label ≠ []) (same : normalizeLabel spelling = label.map Char.toLower) :
    Spells label spelling := by
  unfold normalizeLabel at same
  simp only at same
  split at same
  · rename_i marked
    obtain ⟨rest, lowered⟩ := List.isPrefixOf_iff_prefix.mp marked
    rw [← lowered, List.drop_left] at same
    cases decodes : decode? rest with
    | none =>
      -- A label that does not decode keeps its marker.
      rw [decodes, Option.getD_none] at same
      exact absurd ⟨rest, same⟩ unmarked
    | some decoded =>
      rw [decodes, Option.getD_some] at same
      rw [same] at decodes
      have notEmpty : label.map Char.toLower ≠ [] := by simpa using occupied
      rw [eq_of_decode?_ascii isAscii.toLower notEmpty decodes, ← List.append_assoc] at lowered
      have markerAscii : IsAscii encodedMarker := by simp [IsAscii, encodedMarker]
      have hyphenAscii : IsAscii ['-'] := by simp [IsAscii]
      have lowAscii : IsAscii (lowercase spelling) :=
        lowered ▸ (markerAscii.append isAscii.toLower).append hyphenAscii
      apply Spells.encoded
      rw [← lowercase_eq_letters lowAscii, lowered]
  · have lowAscii : IsAscii (lowercase spelling) := same ▸ isAscii.toLower
    apply Spells.plainly
    rw [← lowercase_eq_letters lowAscii, same]

/-- Without a Kelvin sign, and unless it is written as an encoded label that ends in a hyphen, a
label is spelled in letters of either case only. -/
theorem Spells.toLower_eq (spells : Spells label spelling) (noKelvin : '\u212a' ∉ spelling)
    (uncoded : ¬(IsMarked spelling ∧ spelling.getLast? = some '-')) :
    spelling.map Char.toLower = label.map Char.toLower := by
  have read : spelling.map letter = spelling.map Char.toLower := by
    apply List.map_congr_left
    intro c member
    apply if_neg
    intro kelvin
    exact noKelvin (kelvin ▸ member)
  cases spells with
  | plainly same => rw [← read, same]
  | encoded same =>
    rw [read] at same
    apply absurd _ uncoded
    constructor
    · rw [IsMarked, same, List.append_assoc]
      exact List.prefix_append _ _
    · have last : (spelling.map Char.toLower).getLast? = some '-' := by
        rw [same, List.getLast?_concat]
      rw [List.getLast?_map, Option.map_eq_some_iff] at last
      obtain ⟨c, isLast, lowered⟩ := last
      rw [isLast, (toLower_eq_iff (by decide) c).mp lowered]

/-! ## Templates -/

/-- A template without wildcards that covers a name has its labels, and none of them is empty. -/
theorem Covers.labels {template name : List Char} (covers : Covers template name)
    (literal : ∀ label ∈ split '.' template, '*' ∉ label) :
    List.Forall₂ (fun written label => written = label ∧ label ≠ []) (split '.' template)
      (split '.' name) := by
  have fits := (List.forall₂_and_left _ _).mpr ⟨fun _ member => member, covers.fits⟩
  apply fits.imp
  intro written label fit
  obtain ⟨member, fit⟩ := fit
  cases fit with
  | inl same =>
    refine ⟨same.2, ?_⟩
    rintro rfl
    have nonempty := (covers.form written member).nonempty
    simp [same.2] at nonempty
  | inr around =>
    obtain ⟨front, back, _, rfl, _⟩ := around
    exact absurd (by simp) (literal _ member)

theorem spells_of_covers {name template : List Char} (ordinary : Ordinary name)
    (literal : '*' ∉ template)
    (covers : Covers (normalize template) (normalize name)) :
    List.Forall₂ Spells (split '.' name) (split '.' template) := by
  have labels := covers.labels fun _ member => isMark_star.notMem_normalLabel literal member
  rw [split_normalize, split_normalize, List.forall₂_map_left_iff, List.forall₂_map_right_iff]
    at labels
  have withMembers := (List.forall₂_and_left _ _).mpr ⟨fun _ member => member, labels.flip⟩
  apply withMembers.imp
  intro label spelling fit
  obtain ⟨member, same, occupied⟩ := fit
  have labelAscii : IsAscii label := fun c among =>
    ordinary.isAscii c (mem_of_mem_split member among)
  have unmarked := ordinary.unmarked label member
  rw [normalizeLabel_of_unmarked labelAscii unmarked] at same occupied
  exact spells_of_normalizeLabel labelAscii unmarked (by simpa using occupied) same

/-- Texts whose labels are the same up to the case of ASCII letters are so themselves. -/
theorem toLower_eq_of_labels {name template : List Char}
    (labels : List.Forall₂
      (fun label spelling : List Char => spelling.map Char.toLower = label.map Char.toLower)
      (split '.' name) (split '.' template)) :
    template.map Char.toLower = name.map Char.toLower := by
  have dots (c : Char) : c.toLower = '.' ↔ c = '.' := toLower_eq_iff (by decide) c
  rw [← join_split '.' (template.map Char.toLower), ← join_split '.' (name.map Char.toLower),
    split_map dots, split_map dots]
  apply congrArg (join '.')
  rw [← List.forall₂_eq_eq_eq, List.forall₂_map_left_iff, List.forall₂_map_right_iff]
  exact labels.flip

/-- A template without wildcards that covers an ordinary name spells it label by label. So if it has
no Kelvin sign, and no label that is written as an encoded label and ends in a hyphen, it is the
name itself, up to the case of ASCII letters. -/
theorem template_spells_host (ordinary : Ordinary name.toList) (literal : '*' ∉ template.toList)
    (matched : isMatched name template = true) :
    List.Forall₂ Spells (split '.' name.toList) (split '.' template.toList) ∧
      ('\u212a' ∉ template.toList →
        (∀ label ∈ split '.' template.toList, ¬(IsMarked label ∧ label.getLast? = some '-')) →
        template.toList.map Char.toLower = name.toList.map Char.toLower) := by
  have spells := spells_of_covers ordinary literal (matchesNormal_iff_covers.mp matched)
  refine ⟨spells, fun noKelvin uncoded => toLower_eq_of_labels ?_⟩
  have withMembers := (List.forall₂_and_left _ _).mpr ⟨fun _ member => member, spells.flip⟩
  apply List.Forall₂.flip
  apply withMembers.imp
  intro spelling label spelt
  obtain ⟨member, spells⟩ := spelt
  exact spells.toLower_eq (fun kelvin => noKelvin (mem_of_mem_split member kelvin))
    (uncoded spelling member)

instance (text : List Char) : Decidable (IsAscii text) :=
  List.decidableBAll (fun c : Char => c.toNat < 0x80) text

instance (label : List Char) : Decidable (IsMarked label) :=
  inferInstanceAs (Decidable (encodedMarker <+: label.map Char.toLower))

instance (name : List Char) : Decidable (Ordinary name) :=
  decidable_of_iff (IsAscii name ∧ ∀ label ∈ split '.' name, ¬IsMarked label)
    ⟨fun ⟨isAscii, unmarked⟩ => ⟨isAscii, unmarked⟩, fun ordinary =>
      ⟨ordinary.isAscii, ordinary.unmarked⟩⟩

/-- A host in capitals, and one that is spelled with a Kelvin sign and with an encoded label that
encodes nothing. -/
theorem template_spells_host_oddly :
    (isMatched "api.example" "API.Example" = true ∧
      "API.Example".toList.map Char.toLower = "api.example".toList.map Char.toLower) ∧
    isMatched "kiosk.abc" "\u212aiosK.Xn--Abc-" = true ∧
      List.Forall₂ Spells (split '.' "kiosk.abc".toList)
        (split '.' "\u212aiosK.Xn--Abc-".toList) := by
  have capitals : isMatched "api.example" "API.Example" = true := by decide +kernel
  have oddly : isMatched "kiosk.abc" "\u212aiosK.Xn--Abc-" = true := by decide +kernel
  have same := (template_spells_host (by decide +kernel) (by decide) capitals).2 (by decide)
    (by decide +kernel)
  have spells := (template_spells_host (by decide +kernel) (by decide) oddly).1
  exact ⟨⟨capitals, same⟩, oddly, spells⟩

/-- Two ordinary names are covered by templates that are other names: one with a Kelvin sign, and
one with an encoded label that encodes nothing. -/
theorem covered_by_other_names :
    (Ordinary "k.example".toList ∧ '*' ∉ "\u212a.example".toList ∧
      isMatched "k.example" "\u212a.example" = true ∧
      "\u212a.example".toList.map Char.toLower ≠ "k.example".toList.map Char.toLower) ∧
    Ordinary "abc.com".toList ∧ '*' ∉ "xn--abc-.com".toList ∧
      isMatched "abc.com" "xn--abc-.com" = true ∧
      "xn--abc-.com".toList.map Char.toLower ≠ "abc.com".toList.map Char.toLower := by
  decide +kernel

end OneHost.Hostname
