import OneHost.Text.Lowercase

/-!
# Lower case seen from ASCII

The table of lower-case forms is looked at once: whatever lies beyond ASCII stays there, but for the
Kelvin sign, which becomes a `k`, and `İ`, which becomes an `i` with a combining dot. So lowering a
text neither makes nor removes a character that is not a letter, and a text whose lower case is
ASCII is ASCII itself up to the Kelvin sign.
-/

namespace OneHost.Text

/-- The ASCII letter that a character is read as in lower case; any other character stays as it
is. -/
def letter (c : Char) : Char :=
  if c = '\u212a' then 'k' else c.toLower

/-- All characters of a text are ASCII. -/
def IsAscii (text : List Char) : Prop :=
  ∀ c ∈ text, c.toNat < 0x80

/-- How the lower-case form of a character relates to ASCII. -/
inductive Lowers : Char → List Char → Prop
  | ascii {c : Char} (isAscii : c.toNat < 0x80) : Lowers c [c.toLower]
  | kelvin : Lowers '\u212a' ['k']
  | dotted : Lowers 'İ' ['i', '\u0307']
  | foreign {c form : Char} (before : 0x80 ≤ c.toNat) (after : 0x80 ≤ form.toNat) : Lowers c [form]

/-! ## ASCII characters -/

/-- What is checked for each of the ASCII characters holds of all of them. -/
theorem forall_ascii (property : Char → Prop)
    (each : ∀ code < 0x80, property (Char.ofNat code)) (c : Char) (isAscii : c.toNat < 0x80) :
    property c := by
  rw [← Char.ofNat_toNat c]
  exact each c.toNat isAscii

theorem toNat_ofNat {code : Nat} (valid : code.isValidChar) : (Char.ofNat code).toNat = code := by
  rw [Char.ofNat, dif_pos valid]
  rfl

/-- The letters and digits that core knows are ASCII. -/
theorem toNat_lt_of_isAlphanum {c : Char} (alphanum : c.isAlphanum = true) : c.toNat < 0x80 := by
  have below {last : Char} (upTo : c.val ≤ last.val) (isAscii : last.toNat < 0x80) :
      c.toNat < 0x80 :=
    Nat.lt_of_le_of_lt upTo isAscii
  cases Bool.or_eq_true_iff.mp alphanum with
  | inl alpha =>
    cases Bool.or_eq_true_iff.mp alpha with
    | inl upper =>
      have within : c.val ≥ 'A'.val ∧ c.val ≤ 'Z'.val := of_decide_eq_true upper
      exact below within.2 (by decide)
    | inr lower =>
      have within := Bool.and_eq_true_iff.mp lower
      have upTo : c.val ≤ 'z'.val := of_decide_eq_true within.2
      exact below upTo (by decide)
  | inr digit =>
    have within := Bool.and_eq_true_iff.mp digit
    have upTo : c.val ≤ '9'.val := of_decide_eq_true within.2
    exact below upTo (by decide)

theorem toLower_of_foreign {c : Char} (foreign : 0x80 ≤ c.toNat) : c.toLower = c := by
  have above : ¬(c.val ≥ 'A'.val ∧ c.val ≤ 'Z'.val) := by
    intro within
    have low : c.toNat ≤ 'Z'.val.toNat := within.2
    have bound : 'Z'.val.toNat = 90 := rfl
    omega
  exact dif_neg above

theorem toLower_ascii {c : Char} (isAscii : c.toNat < 0x80) : c.toLower.toNat < 0x80 :=
  forall_ascii (fun c => c.toLower.toNat < 0x80) (by decide) c isAscii

theorem IsAscii.toLower {text : List Char} (isAscii : IsAscii text) :
    IsAscii (text.map Char.toLower) := by
  intro c member
  obtain ⟨written, among, rfl⟩ := List.mem_map.mp member
  exact toLower_ascii (isAscii written among)

theorem IsAscii.append {text more : List Char} (isAscii : IsAscii text) (moreAscii : IsAscii more) :
    IsAscii (text ++ more) := by
  intro c member
  cases List.mem_append.mp member with
  | inl member => exact isAscii c member
  | inr member => exact moreAscii c member

/-- A character that has a lower-case form of its own is a letter, and so is the form. -/
theorem toLower_cases (c : Char) :
    c.toLower = c ∨ c.isAlpha = true ∧ c.toLower.isAlpha = true := by
  by_cases isAscii : c.toNat < 0x80
  · exact forall_ascii (fun c => c.toLower = c ∨ c.isAlpha = true ∧ c.toLower.isAlpha = true)
      (by decide) c isAscii
  · exact .inl (toLower_of_foreign (Nat.le_of_not_lt isAscii))

theorem toLower_toLower (c : Char) : c.toLower.toLower = c.toLower := by
  by_cases isAscii : c.toNat < 0x80
  · exact forall_ascii (fun c => c.toLower.toLower = c.toLower) (by decide) c isAscii
  · have own := toLower_of_foreign (Nat.le_of_not_lt isAscii)
    rw [own, own]

theorem toLower_eq_iff {mark : Char} (caseless : mark.isAlpha = false) (c : Char) :
    c.toLower = mark ↔ c = mark := by
  constructor
  · intro lowered
    cases toLower_cases c with
    | inl same => exact same.symm.trans lowered
    | inr letters =>
      rw [lowered, caseless] at letters
      exact absurd letters.2 Bool.false_ne_true
  · intro own
    subst own
    cases toLower_cases c with
    | inl same => exact same
    | inr letters =>
      rw [caseless] at letters
      exact absurd letters.1 Bool.false_ne_true

/-! ## The table -/

/-- The only run that leads back to ASCII is that of the Kelvin sign. -/
theorem lowercaseRuns_image : ∀ run ∈ lowercaseRuns,
    (run.first = 0x212a ∧ run.last = 0x212a ∧ run.image = 0x6b) ∨
      (0x80 ≤ run.image ∧
        (run.image + (run.last - run.first) < 0xd800 ∨
          0xdfff < run.image ∧ run.image + (run.last - run.first) < 0x110000)) := by
  decide +kernel

theorem lowers_of_run {run : CaseRun} {c : Char} (member : run ∈ lowercaseRuns)
    (covered : run.covers c.toNat = true) (foreign : 0x80 ≤ c.toNat) :
    Lowers c [run.apply c.toNat] := by
  simp only [CaseRun.covers, Bool.and_eq_true, decide_eq_true_eq] at covered
  cases lowercaseRuns_image run member with
  | inl kelvin =>
    have code : c.toNat = 0x212a := by omega
    have own : c = '\u212a' := by
      rw [← Char.ofNat_toNat c, code]
    have form : run.apply c.toNat = 'k' := by
      rw [CaseRun.apply, code, kelvin.1, kelvin.2.2]
    rw [form, own]
    exact .kelvin
  | inr beyond =>
    have valid : (run.image + (c.toNat - run.first)).isValidChar := by
      unfold Nat.isValidChar
      omega
    apply Lowers.foreign foreign
    rw [CaseRun.apply, toNat_ofNat valid]
    omega

theorem lowers_lowercaseChar (c : Char) : Lowers c (lowercaseChar c) := by
  unfold lowercaseChar
  split
  · rename_i isAscii
    exact .ascii isAscii
  · rename_i notAscii
    have foreign : 0x80 ≤ c.toNat := Nat.le_of_not_lt notAscii
    split
    · rename_i dotted
      rw [dotted]
      exact .dotted
    · split
      · rename_i run found
        have covered : run.covers c.toNat = true := by simpa using List.find?_some found
        exact lowers_of_run (List.mem_of_find?_eq_some found) covered foreign
      · exact .foreign foreign foreign

/-! ## Texts -/

/-- Characters are lowered one after the other. -/
theorem lowercaseAfter_cons (before : List Char) (c : Char) (rest : List Char) :
    ∃ form, Lowers c form ∧
      lowercaseAfter before (c :: rest) = form ++ lowercaseAfter (c :: before) rest := by
  by_cases sigma : c = 'Σ'
  · refine ⟨_, ?_, by rw [lowercaseAfter, if_pos sigma]⟩
    rw [sigma]
    split <;> exact .foreign (by decide) (by decide)
  · exact ⟨_, lowers_lowercaseChar c, by rw [lowercaseAfter, if_neg sigma]⟩

theorem Lowers.count_eq {c mark : Char} {form : List Char} (lowers : Lowers c form)
    (isAscii : mark.toNat < 0x80) (caseless : mark.isAlpha = false) :
    form.count mark = [c].count mark := by
  have noLetter {other : Char} (isLetter : other.isAlpha = true) : other ≠ mark := by
    intro own
    rw [own, caseless] at isLetter
    exact Bool.false_ne_true isLetter
  have noForeign {other : Char} (foreign : 0x80 ≤ other.toNat) : other ≠ mark := by
    intro own
    rw [own] at foreign
    omega
  cases lowers with
  | ascii _ => simp only [List.count_singleton, beq_iff_eq, toLower_eq_iff caseless]
  | kelvin =>
    have small : 'k' ≠ mark := noLetter (by decide)
    have sign : '\u212a' ≠ mark := noForeign (by decide)
    simp [small, sign]
  | dotted =>
    have small : 'i' ≠ mark := noLetter (by decide)
    have dot : '\u0307' ≠ mark := noForeign (by decide)
    have capital : 'İ' ≠ mark := noForeign (by decide)
    simp [small, dot, capital]
  | foreign before after =>
    simp [noForeign before, noForeign after]

/-- Lowering neither makes nor removes an ASCII character that is not a letter. -/
theorem count_lowercase {mark : Char} (isAscii : mark.toNat < 0x80)
    (caseless : mark.isAlpha = false) (text : List Char) :
    (lowercase text).count mark = text.count mark := by
  suffices general : ∀ before, (lowercaseAfter before text).count mark = text.count mark from
    general []
  induction text with
  | nil =>
    intro before
    rfl
  | cons c rest ih =>
    intro before
    obtain ⟨form, lowers, lowered⟩ := lowercaseAfter_cons before c rest
    rw [lowered, List.count_append, ih, lowers.count_eq isAscii caseless, ← List.count_append,
      List.singleton_append]

/-! ## Texts that are read as ASCII -/

theorem letter_of_ascii {c : Char} (isAscii : c.toNat < 0x80) : letter c = c.toLower := by
  apply if_neg
  intro kelvin
  rw [kelvin] at isAscii
  exact absurd isAscii (by decide)

theorem Lowers.eq_letter {c : Char} {form : List Char} (lowers : Lowers c form)
    (isAscii : IsAscii form) : form = [letter c] := by
  cases lowers with
  | ascii headAscii => rw [letter_of_ascii headAscii]
  | kelvin => rfl
  | dotted => exact absurd (isAscii '\u0307' (by simp)) (by decide)
  | foreign _ after => exact absurd (isAscii _ (List.mem_singleton_self _)) (Nat.not_lt.mpr after)

/-- A text whose lower case is ASCII is read as that. -/
theorem lowercase_eq_letters {text : List Char} (isAscii : IsAscii (lowercase text)) :
    lowercase text = text.map letter := by
  suffices general : ∀ before, IsAscii (lowercaseAfter before text) →
      lowercaseAfter before text = text.map letter from general [] isAscii
  clear isAscii
  induction text with
  | nil =>
    intro before _
    rfl
  | cons c rest ih =>
    intro before isAscii
    obtain ⟨form, lowers, lowered⟩ := lowercaseAfter_cons before c rest
    rw [lowered] at isAscii ⊢
    rw [lowers.eq_letter fun d member => isAscii d (List.mem_append_left _ member),
      ih _ fun d member => isAscii d (List.mem_append_right _ member)]
    rfl

/-- An ASCII text is lowered letter by letter. -/
theorem lowercase_of_ascii {text : List Char} (isAscii : IsAscii text) :
    lowercase text = text.map Char.toLower := by
  suffices general : ∀ before, lowercaseAfter before text = text.map Char.toLower from general []
  induction text with
  | nil =>
    intro before
    rfl
  | cons c rest ih =>
    intro before
    have headAscii := isAscii c List.mem_cons_self
    have notSigma : c ≠ 'Σ' := by
      intro sigma
      rw [sigma] at headAscii
      exact absurd headAscii (by decide)
    rw [lowercaseAfter, if_neg notSigma, lowercaseChar, if_pos headAscii,
      ih fun d member => isAscii d (List.mem_cons_of_mem c member)]
    rfl

/-! ## Texts whose ASCII letters are lowered first -/

/-- Whether an ASCII letter is a capital makes no difference to what is around it. -/
theorem isCased_toLower (c : Char) : isCased c.toLower = isCased c := by
  cases toLower_cases c with
  | inl same => rw [same]
  | inr letters => simp [isCased, letters.1, letters.2]

/-- No letter of ASCII is skipped in the search for a neighbour. -/
theorem isCaseIgnorable_of_isAlpha {c : Char} (isLetter : c.isAlpha = true) :
    isCaseIgnorable c = false := by
  have isAscii : c.toNat < 0x80 :=
    toNat_lt_of_isAlphanum (by rw [Char.isAlphanum, isLetter, Bool.true_or])
  exact forall_ascii (fun c => c.isAlpha = true → isCaseIgnorable c = false) (by decide) c isAscii
    isLetter

theorem isCaseIgnorable_toLower (c : Char) : isCaseIgnorable c.toLower = isCaseIgnorable c := by
  cases toLower_cases c with
  | inl same => rw [same]
  | inr letters =>
    rw [isCaseIgnorable_of_isAlpha letters.1, isCaseIgnorable_of_isAlpha letters.2]

theorem meetsCased_map_toLower (text : List Char) :
    meetsCased (text.map Char.toLower) = meetsCased text := by
  have skipped : isCaseIgnorable ∘ Char.toLower = isCaseIgnorable :=
    funext isCaseIgnorable_toLower
  rw [meetsCased, meetsCased, List.dropWhile_map, skipped]
  cases text.dropWhile isCaseIgnorable with
  | nil => rfl
  | cons c _ => exact isCased_toLower c

theorem lowercaseChar_toLower (c : Char) : lowercaseChar c.toLower = lowercaseChar c := by
  by_cases isAscii : c.toNat < 0x80
  · rw [lowercaseChar, if_pos (toLower_ascii isAscii), lowercaseChar, if_pos isAscii,
      toLower_toLower]
  · rw [toLower_of_foreign (Nat.le_of_not_lt isAscii)]

/-- A text is lowered in the same way if its ASCII letters have been lowered before. A final sigma
is none of them, and whether it is final depends on letters of either case. -/
theorem lowercase_map_toLower (text : List Char) :
    lowercase (text.map Char.toLower) = lowercase text := by
  suffices general : ∀ before, lowercaseAfter (before.map Char.toLower) (text.map Char.toLower) =
      lowercaseAfter before text from general []
  induction text with
  | nil =>
    intro before
    rfl
  | cons c rest ih =>
    intro before
    have sigma : c.toLower = 'Σ' ↔ c = 'Σ' := toLower_eq_iff (by decide) c
    have further := ih (c :: before)
    rw [List.map_cons] at further
    simp only [List.map_cons, lowercaseAfter, further, sigma, meetsCased_map_toLower,
      lowercaseChar_toLower]

end OneHost.Text
