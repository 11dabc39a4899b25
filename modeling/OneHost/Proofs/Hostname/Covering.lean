import Mathlib.Data.List.Forall2
import Mathlib.Data.String.Basic
import OneHost.Hostname.Matching

/-!
# What a certificate name covers

`isMatched` looks for the last wildcard, fills the wildcards in and compares lengths in bytes. Here
the same rule is stated without any search: `Covers` says which names a template stands for, label
by label, and `isMatched_iff_covers` identifies the two for all texts.
-/

namespace OneHost.Hostname

open Text

/-- A label of a template may stand in a name: it has 1 to 63 bytes, all of its characters are
letters, digits, hyphens, underscores or wildcards, and there is no hyphen at either end. -/
structure LabelForm (label : List Char) : Prop where
  nonempty : 1 ≤ (String.ofList label).utf8ByteSize
  short : (String.ofList label).utf8ByteSize ≤ 63
  chars : ∀ c ∈ label, isAlphanumeric c ∨ c = '-' ∨ c = '_' ∨ c = '*'
  first : label.head? ≠ some '-'
  last : label.getLast? ≠ some '-'

/-- A label of a name fits one of a template: they are the same, or the text of the name's label
around some run of characters is that of the template's label around its first wildcard. -/
def LabelFits (template label : List Char) : Prop :=
  ('*' ∉ template ∧ template = label) ∨
    ∃ front back run, template = front ++ '*' :: back ∧ '*' ∉ front ∧ label = front ++ run ++ back

/-- A template in normal form stands for a name in normal form. -/
structure Covers (template name : List Char) : Prop where
  short : (String.ofList template).utf8ByteSize ≤ 253
  form : ∀ label ∈ split '.' template, LabelForm label
  literalEnd : ∀ label ∈ (split '.' template).getLast?, '*' ∉ label
  fits : List.Forall₂ LabelFits (split '.' template) (split '.' name)

/-! ## Lengths in bytes -/

theorem byteLength_eq_utf8Len (text : List Char) : byteLength text = String.utf8Len text := by
  induction text with
  | nil => rfl
  | cons c rest ih =>
    simp only [byteLength, List.foldr_cons, String.utf8Len_cons] at ih ⊢
    omega

theorem byteLength_eq (text : List Char) :
    byteLength text = (String.ofList text).utf8ByteSize := by
  rw [byteLength_eq_utf8Len, String.utf8ByteSize_ofList]

/-- Two ends of a text that take no more bytes than it has do not overlap. -/
theorem ends_apart_iff {front back text : List Char} :
    (byteLength front + byteLength back ≤ byteLength text ∧ front <+: text ∧ back <:+ text) ↔
      ∃ run, text = front ++ run ++ back := by
  simp only [byteLength_eq_utf8Len]
  constructor
  · rintro ⟨room, ⟨rest, rfl⟩, ⟨start, equal⟩⟩
    rcases List.append_eq_append_iff.mp equal with ⟨overlap, rfl, rfl⟩ | ⟨run, rfl, rfl⟩
    · -- The shared part would be counted twice, so it takes no bytes.
      simp only [String.utf8Len_append] at room
      have nothing : String.utf8Len overlap = 0 := by omega
      rw [String.utf8Len_eq_zero.mp nothing]
      exact ⟨[], by simp⟩
    · exact ⟨run, by simp⟩
  · rintro ⟨run, rfl⟩
    refine ⟨?_, ⟨run ++ back, by simp⟩, ⟨front ++ run, rfl⟩⟩
    simp only [String.utf8Len_append]
    omega

/-! ## Labels -/

theorem labelMatches_iff {label template : List Char} :
    labelMatches label template = true ↔ LabelFits template label := by
  cases cut : splitOnce? '*' template with
  | none =>
    have literal := splitOnce?_eq_none_iff.mp cut
    simp only [labelMatches, cut, beq_iff_eq, LabelFits]
    constructor
    · rintro rfl
      exact .inl ⟨literal, rfl⟩
    · rintro (⟨_, equal⟩ | ⟨front, back, run, rfl, _⟩)
      · exact equal.symm
      · simp at literal
  | some parts =>
    obtain ⟨front, back⟩ := parts
    obtain ⟨templateEq, frontLiteral⟩ := splitOnce?_eq_some_iff.mp cut
    have matched : labelMatches label template = true ↔ ∃ run, label = front ++ run ++ back := by
      rw [← ends_apart_iff]
      simp [labelMatches, cut, and_assoc]
    rw [matched, LabelFits]
    constructor
    · rintro ⟨run, labelEq⟩
      exact .inr ⟨front, back, run, templateEq, frontLiteral, labelEq⟩
    · rintro (⟨literal, _⟩ | ⟨otherFront, otherBack, run, otherEq, otherLiteral, labelEq⟩)
      · exact absurd (templateEq ▸ by simp) literal
      · -- There is one cut at the first wildcard only.
        have same := splitOnce?_eq_some_iff.mpr ⟨otherEq, otherLiteral⟩
        rw [cut, Option.some.injEq, Prod.mk.injEq] at same
        obtain ⟨rfl, rfl⟩ := same
        exact ⟨run, labelEq⟩

/-- What stands in for a character of a template when its form is checked. -/
def fill (c : Char) : Char :=
  if c = '*' then placeholder else c

theorem fillWildcards_eq_map (template : List Char) :
    fillWildcards template = template.map fill := rfl

theorem fill_eq_iff {c separator : Char} (notStar : separator ≠ '*')
    (notFilled : separator ≠ placeholder) :
    fill c = separator ↔ c = separator := by
  unfold fill
  split
  · simp_all [eq_comm]
  · rfl

@[simp] theorem byteLength_map_fill (text : List Char) :
    byteLength (text.map fill) = byteLength text := by
  have size (c : Char) : (fill c).utf8Size = c.utf8Size := by
    unfold fill
    split
    · simp_all [placeholder]
      rfl
    · rfl
  induction text with
  | nil => rfl
  | cons c rest ih =>
    simp only [byteLength, List.map_cons, List.foldr_cons, size] at ih ⊢
    rw [ih]

theorem isLabelChar_fill (c : Char) :
    isLabelChar (fill c) = true ↔ isAlphanumeric c ∨ c = '-' ∨ c = '_' ∨ c = '*' := by
  by_cases star : c = '*'
  · subst star
    simp [fill, placeholder, isLabelChar, isAlphanumeric]
  · simp [fill, star, isLabelChar, or_assoc]

theorem isValidLabel_fill_iff {label : List Char} :
    isValidLabel (label.map fill) = true ↔ LabelForm label := by
  have hyphen (c : Char) : fill c = '-' ↔ c = '-' := fill_eq_iff (by decide) (by decide)
  have occupied : label ≠ [] ↔ 1 ≤ (String.ofList label).utf8ByteSize := by
    rw [← byteLength_eq, byteLength_eq_utf8Len, Nat.one_le_iff_ne_zero, Ne, Ne,
      String.utf8Len_eq_zero]
  have front : (label.map fill).head? ≠ some '-' ↔ label.head? ≠ some '-' := by
    cases label <;> simp [hyphen]
  have back : (label.map fill).getLast? ≠ some '-' ↔ label.getLast? ≠ some '-' := by
    rw [List.getLast?_map]
    cases label.getLast? <;> simp [hyphen]
  have bytes : byteLength (label.map fill) = (String.ofList label).utf8ByteSize := by
    rw [byteLength_map_fill, byteLength_eq]
  simp only [isValidLabel, bytes, Bool.and_eq_true, Bool.not_eq_true', decide_eq_true_eq,
    bne_iff_ne, front, back, List.all_map, List.all_eq_true, Function.comp_apply,
    isLabelChar_fill, List.isEmpty_eq_false_iff, ne_eq, List.map_eq_nil_iff, maxLabelLength]
  constructor
  · rintro ⟨⟨⟨⟨nonempty, short⟩, first⟩, last⟩, chars⟩
    exact ⟨occupied.mp nonempty, short, chars, first, last⟩
  · rintro ⟨nonempty, short, chars, first, last⟩
    exact ⟨⟨⟨⟨occupied.mpr nonempty, short⟩, first⟩, last⟩, chars⟩

/-! ## Templates -/

theorem split_fillWildcards (template : List Char) :
    split '.' (fillWildcards template) = (split '.' template).map (List.map fill) :=
  split_map (fun _ => fill_eq_iff (by decide) (by decide)) template

/-- Some label of the empty text is empty, and so is not of the right form. -/
theorem ne_nil_of_form {template : List Char}
    (form : ∀ label ∈ split '.' template, LabelForm label) : template ≠ [] := by
  rintro rfl
  have empty := (form [] (by simp [split])).nonempty
  simp at empty

theorem isValidName_fillWildcards_iff {template : List Char} :
    isValidName (fillWildcards template) = true ↔
      (String.ofList template).utf8ByteSize ≤ 253 ∧
        ∀ label ∈ split '.' template, LabelForm label := by
  have bytes : byteLength (fillWildcards template) = (String.ofList template).utf8ByteSize := by
    rw [fillWildcards_eq_map, byteLength_map_fill, byteLength_eq]
  have nonempty : (fillWildcards template).isEmpty = false ↔ template ≠ [] := by
    simp [fillWildcards]
  simp only [isValidName, Bool.and_eq_true, Bool.not_eq_true', decide_eq_true_eq, nonempty, bytes,
    split_fillWildcards, List.all_map, List.all_eq_true, Function.comp_apply,
    isValidLabel_fill_iff, maxNameLength]
  constructor
  · rintro ⟨⟨_, short⟩, form⟩
    exact ⟨short, form⟩
  · rintro ⟨short, form⟩
    exact ⟨⟨ne_nil_of_form form, short⟩, form⟩

/-- A wildcard behind the last dot stands in the last label. -/
theorem mem_getLast?_split {c : Char} {after : List Char} (before : List Char)
    (dotless : '.' ∉ after) (notDot : c ≠ '.') :
    ∃ label ∈ (split '.' (before ++ c :: after)).getLast?, c ∈ label := by
  cases cut : splitLast? '.' before with
  | none =>
    have absent := splitLast?_eq_none_iff.mp cut
    have whole : '.' ∉ before ++ c :: after := by simp [absent, dotless, Ne.symm notDot]
    exact ⟨before ++ c :: after, by simp [split_of_not_mem whole], by simp⟩
  | some parts =>
    obtain ⟨front, back⟩ := parts
    obtain ⟨rfl, absent⟩ := splitLast?_eq_some_iff.mp cut
    have tail : '.' ∉ back ++ c :: after := by simp [absent, dotless, Ne.symm notDot]
    refine ⟨back ++ c :: after, ?_, by simp⟩
    rw [List.append_assoc, List.cons_append, getLast?_split_append_cons tail]
    rfl

/-- Among templates whose labels have the right form, a wildcard has no label after it just when it
stands in the last label. -/
theorem hasIllegalWildcard_eq_false_iff {template : List Char}
    (form : ∀ label ∈ split '.' template, LabelForm label) :
    hasIllegalWildcard template = false ↔
      ∀ label ∈ (split '.' template).getLast?, '*' ∉ label := by
  unfold hasIllegalWildcard
  cases star : splitLast? '*' template with
  | none =>
    have literal := splitLast?_eq_none_iff.mp star
    simp only [true_iff]
    intro label last member
    exact literal (mem_of_mem_split (List.mem_of_getLast? last) member)
  | some parts =>
    obtain ⟨before, after⟩ := parts
    obtain ⟨rfl, literal⟩ := splitLast?_eq_some_iff.mp star
    cases dot : splitOnce? '.' after with
    | none =>
      obtain ⟨label, last, member⟩ :=
        mem_getLast?_split before (splitOnce?_eq_none_iff.mp dot) (by decide : '*' ≠ '.')
      simp only [dot, Bool.true_eq_false, false_iff]
      exact fun every => every label last member
    | some parts =>
      obtain ⟨middle, beyond⟩ := parts
      obtain ⟨rfl, _⟩ := splitOnce?_eq_some_iff.mp dot
      have regrouped : before ++ '*' :: (middle ++ '.' :: beyond) =
          (before ++ '*' :: middle) ++ '.' :: beyond := by simp
      rw [regrouped, split_append_cons] at form ⊢
      have occupied : beyond ≠ [] := ne_nil_of_form fun label member =>
        form label (List.mem_append_right _ member)
      simp only [dot, List.isEmpty_eq_false_iff, occupied, ne_eq, not_false_eq_true, true_iff,
        List.getLast?_append_of_ne_nil _ (split_ne_nil '.' beyond)]
      intro label last member
      have inBeyond := mem_of_mem_split (List.mem_of_getLast? last) member
      exact literal (by simp [inBeyond])

/-! ## The rule -/

theorem all_zip_labelMatches_iff {labels templates : List (List Char)} :
    (labels.length = templates.length ∧
      (labels.zip templates).all (fun (label, template) => labelMatches label template) = true) ↔
      List.Forall₂ LabelFits templates labels := by
  have turned : List.Forall₂ LabelFits templates labels ↔
      List.Forall₂ (fun label template => LabelFits template label) labels templates :=
    ⟨List.Forall₂.flip, List.Forall₂.flip⟩
  rw [turned, List.forall₂_iff_zip, List.all_eq_true]
  simp only [Prod.forall, labelMatches_iff]

theorem matchesNormal_eq_true_iff {name template : List Char} :
    matchesNormal name template = true ↔
      name ≠ [] ∧ template ≠ [] ∧ hasIllegalWildcard template = false ∧
        isValidName (fillWildcards template) = true ∧
        List.Forall₂ LabelFits (split '.' template) (split '.' name) := by
  rw [← all_zip_labelMatches_iff]
  simp only [matchesNormal, Bool.if_false_left, Bool.and_eq_true, Bool.not_eq_true',
    Bool.or_eq_false_iff, decide_eq_false_iff_not, Bool.not_eq_true, Bool.not_eq_false,
    List.isEmpty_eq_false_iff, beq_iff_eq, ne_eq, and_assoc]

/-- The empty name has one label, which only a wildcard would fit; and a lone label of a template
has none. -/
theorem ne_nil_of_fits {name template : List Char}
    (form : ∀ label ∈ split '.' template, LabelForm label)
    (literalEnd : ∀ label ∈ (split '.' template).getLast?, '*' ∉ label)
    (fits : List.Forall₂ LabelFits (split '.' template) (split '.' name)) : name ≠ [] := by
  rintro rfl
  obtain ⟨label, others, fit, none, labels⟩ := List.forall₂_cons_right_iff.mp fits
  obtain rfl := List.forall₂_nil_right_iff.mp none
  rw [labels] at form literalEnd
  rcases fit with ⟨_, rfl⟩ | ⟨front, back, _, rfl, _⟩
  · have empty := (form [] (by simp)).nonempty
    simp at empty
  · exact literalEnd _ rfl (by simp)

theorem matchesNormal_iff_covers {name template : List Char} :
    matchesNormal name template = true ↔ Covers template name := by
  rw [matchesNormal_eq_true_iff, isValidName_fillWildcards_iff]
  constructor
  · rintro ⟨_, _, legal, ⟨short, form⟩, fits⟩
    exact ⟨short, form, (hasIllegalWildcard_eq_false_iff form).mp legal, fits⟩
  · rintro ⟨short, form, literalEnd, fits⟩
    exact ⟨ne_nil_of_fits form literalEnd fits, ne_nil_of_form form,
      (hasIllegalWildcard_eq_false_iff form).mpr literalEnd, ⟨short, form⟩, fits⟩

/-- A certificate name covers a host just when its normal form stands for that of the host. -/
theorem isMatched_iff_covers (name template : String) :
    isMatched name template = true ↔
      Covers (normalize template.toList) (normalize name.toList) :=
  matchesNormal_iff_covers

end OneHost.Hostname
