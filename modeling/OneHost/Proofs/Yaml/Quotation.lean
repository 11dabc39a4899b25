import OneHost.Yaml.Scalar

/-!
# Scalars that are read back

Any text can be written between double quotes with nothing but printable characters, in one word:
the characters that would not stand for themselves are written by their code points. What is read
then is the text, whatever follows the closing quote. Digits in brackets are read up to the comma or
the bracket behind them.
-/

namespace OneHost.Yaml

theorem mapM_eq_some_map {α β : Type} {read? : α → Option β} {meant : α → β} {items : List α}
    (each : ∀ item ∈ items, read? item = some (meant item)) :
    items.mapM read? = some (items.map meant) := by
  induction items with
  | nil => rfl
  | cons item items ih =>
    rw [List.forall_mem_cons] at each
    rw [List.mapM_cons, each.1, ih each.2]
    rfl

/-! ## One line -/

/-- The printable characters of ASCII, with the space. -/
def isPrintable (c : Char) : Bool :=
  ' ' ≤ c && c ≤ '~'

theorem isAllowed_of_isPrintable {c : Char} (printable : isPrintable c = true) :
    isAllowed c = true := by
  rw [isPrintable, Bool.and_eq_true] at printable
  simp [isAllowed, printable]

theorem isBreak_of_isPrintable {c : Char} (printable : isPrintable c = true) :
    isBreak c = false := by
  apply Bool.eq_false_iff.mpr
  intro breaks
  simp only [isBreak, Bool.or_eq_true, decide_eq_true_eq] at breaks
  rcases breaks with (((rfl | rfl) | rfl) | rfl) | rfl <;> exact absurd printable (by decide)

namespace Cursor

variable {cursor : Cursor} {c : Char} {text rest : List Char}

theorem skip_eq (isNext : cursor.rest = c :: rest) (onLine : isBreak c = false) :
    cursor.skip = ⟨rest, cursor.index + 1, cursor.line, cursor.column + 1⟩ := by
  unfold skip
  split
  · rename_i none
    rw [none] at isNext
    contradiction
  · rename_i carriage
    rw [carriage] at isNext
    cases isNext
    exact absurd onLine (by decide)
  · rename_i isFirst
    rw [isFirst] at isNext
    cases isNext
    simp [onLine]

/-- By induction on the characters. -/
theorem advance_eq (isNext : cursor.rest = text ++ rest) (onLine : ∀ c ∈ text, isBreak c = false) :
    cursor.advance text.length =
      ⟨rest, cursor.index + text.length, cursor.line, cursor.column + text.length⟩ := by
  induction text generalizing cursor with
  | nil =>
    obtain ⟨_, _, _, _⟩ := cursor
    cases isNext
    rfl
  | cons c text ih =>
    rw [List.forall_mem_cons] at onLine
    have skipped := skip_eq isNext onLine.1
    rw [List.length_cons, advance, skipped, ih rfl onLine.2]
    simp only [Cursor.mk.injEq, true_and]
    omega

theorem dropWhile_eq {kind : Char → Bool} (stops : ∀ c ∈ cursor.peek?, kind c = false) :
    cursor.dropWhile kind = cursor := by
  have none : cursor.rest.takeWhile kind = [] := by
    rw [peek?] at stops
    cases isNext : cursor.rest with
    | nil => rfl
    | cons c rest => rw [List.takeWhile_cons, stops c (by rw [isNext]; rfl), if_neg (by simp)]
  rw [dropWhile, takeWhile, none]
  rfl

theorem atMarker_eq_false {first : Char} {marker : List Char} (isNext : cursor.rest = c :: rest)
    (differs : first ≠ c) : cursor.atMarker (first :: marker) = false := by
  simp [atMarker, isNext, List.isPrefixOf, differs]

end Cursor

/-! ## Code points -/

/-- A number in hexadecimal digits. -/
def hexDigits : Nat → Nat → List Char
  | 0, _ => []
  | width + 1, number => hexDigits width (number / 16) ++ [(number % 16).digitChar]

theorem length_hexDigits (width number : Nat) : (hexDigits width number).length = width := by
  induction width generalizing number with
  | zero => rfl
  | succ width ih => rw [hexDigits, List.length_append, ih, List.length_singleton]

theorem hexDigit?_digitChar {digit : Nat} (isDigit : digit < 16) :
    hexDigit? digit.digitChar = some digit := by
  have all : ∀ digit < 16, hexDigit? (Nat.digitChar digit) = some digit := by decide
  exact all digit isDigit

/-- By induction on the width: the last digit is what the others leave. -/
theorem mapM_hexDigits {width number : Nat} (fits : number < Nat.pow 16 width) :
    ∃ digits, (hexDigits width number).mapM hexDigit? = some digits ∧ digits.length = width ∧
      digits.foldl (fun value digit => value * 16 + digit) 0 = number := by
  induction width generalizing number with
  | zero =>
    have isZero : number = 0 := Nat.lt_one_iff.mp fits
    exact ⟨[], rfl, rfl, isZero.symm⟩
  | succ width ih =>
    have less : number / 16 < Nat.pow 16 width := by
      change number < Nat.pow 16 width * 16 at fits
      exact Nat.div_lt_of_lt_mul (by omega)
    obtain ⟨digits, areDigits, length, value⟩ := ih less
    have last := hexDigit?_digitChar (Nat.mod_lt number (by decide : 0 < 16))
    refine ⟨digits ++ [number % 16], ?_, by simp [length], ?_⟩
    · simp [hexDigits, List.mapM_append, areDigits, last]
    · rw [List.foldl_append, value]
      exact Nat.div_add_mod' number 16

theorem hexNumber?_hexDigits {width number : Nat} (fits : number < Nat.pow 16 width)
    (rest : List Char) :
    hexNumber? width (hexDigits width number ++ rest) = some number := by
  obtain ⟨digits, areDigits, length, value⟩ := mapM_hexDigits fits
  have front : (hexDigits width number ++ rest).take width = hexDigits width number :=
    List.take_left' (length_hexDigits width number)
  simp [hexNumber?, front, areDigits, length, value]

theorem charOf?_toNat (c : Char) : charOf? c.toNat = some c := by
  have valid : c.toNat.isValidChar := c.valid
  rw [charOf?, if_pos valid, Char.ofNat_toNat]

/-! ## Double quotes -/

/-- The characters that stand for themselves between double quotes. -/
def isLiteral (c : Char) : Bool :=
  '!' ≤ c && c ≤ '~' && c ≠ '"' && c ≠ '\\'

/-- The form of one character between double quotes. -/
def quoteChar (c : Char) : List Char :=
  if isLiteral c then [c] else '\\' :: 'U' :: hexDigits 8 c.toNat

/-- The form of a text between double quotes. -/
def quotation (text : List Char) : List Char :=
  text.flatMap quoteChar

theorem doublePart?_quoteChar (c : Char) (rest : List Char) :
    doublePart? (quoteChar c ++ rest) =
      (doublePart? rest).map (·.cons c (quoteChar c).length) := by
  unfold quoteChar
  split
  · rename_i literal
    simp only [isLiteral, Bool.and_eq_true, decide_eq_true_eq] at literal
    obtain ⟨⟨⟨low, high⟩, noQuote⟩, noBackslash⟩ := literal
    have noSpace : isSpace c = false := by
      apply Bool.eq_false_iff.mpr
      intro space
      simp only [isSpace, isBlank, isBreak, Bool.or_eq_true, decide_eq_true_eq] at space
      rcases space with (rfl | rfl) | (((rfl | rfl) | rfl) | rfl) | rfl
      all_goals
        revert low high
        decide
    rw [List.singleton_append, doublePart?]
    · simp [noSpace, noQuote]
    all_goals simp [noBackslash]
  · have fits : c.toNat < Nat.pow 16 8 := by
      have valid : c.toNat.isValidChar := c.valid
      have size : Nat.pow 16 8 = 4294967296 := rfl
      unfold Nat.isValidChar at valid
      omega
    have meant := hexNumber?_hexDigits fits rest
    have behind : (hexDigits 8 c.toNat ++ rest).drop 8 = rest :=
      List.drop_left' (length_hexDigits 8 c.toNat)
    rw [List.cons_append, List.cons_append, doublePart?]
    · simp [isBreak, escaped?, escapeWidth?, meant, charOf?_toNat, behind, length_hexDigits,
        Option.map_eq_bind, Function.comp_def]
    all_goals simp

/-- By induction on the text. -/
theorem doublePart?_quotation (text rest : List Char) :
    doublePart? (quotation text ++ '"' :: rest) = some ⟨text, (quotation text).length, false⟩ := by
  induction text with
  | nil => simp [quotation, doublePart?, isSpace, isBlank, isBreak]
  | cons c text ih =>
    have split : quotation (c :: text) = quoteChar c ++ quotation text := List.flatMap_cons
    rw [split, List.append_assoc, doublePart?_quoteChar, ih]
    simp [Part.cons, Nat.add_comm]

theorem isPrintable_hexDigits {width number : Nat} {c : Char} (among : c ∈ hexDigits width number) :
    isPrintable c = true := by
  induction width generalizing number with
  | zero => simp [hexDigits] at among
  | succ width ih =>
    rw [hexDigits, List.mem_append, List.mem_singleton] at among
    rcases among with before | rfl
    · exact ih before
    · have all : ∀ digit < 16, isPrintable (Nat.digitChar digit) = true := by decide
      exact all _ (Nat.mod_lt number (by decide))

theorem isPrintable_quotation {text : List Char} {c : Char} (among : c ∈ quotation text) :
    isPrintable c = true := by
  obtain ⟨meant, -, among⟩ := List.mem_flatMap.mp among
  unfold quoteChar at among
  split at among
  · rename_i literal
    rw [List.mem_singleton.mp among]
    simp only [isLiteral, Bool.and_eq_true, decide_eq_true_eq] at literal
    simp only [isPrintable, Bool.and_eq_true, decide_eq_true_eq]
    exact ⟨Char.le_trans (by decide) literal.1.1.1, literal.1.1.2⟩
  · rw [List.mem_cons, List.mem_cons] at among
    rcases among with rfl | rfl | among
    · rfl
    · rfl
    · exact isPrintable_hexDigits among

theorem isAllowed_quotation (text : List Char) : (quotation text).all isAllowed = true := by
  rw [List.all_eq_true]
  exact fun c among => isAllowed_of_isPrintable (isPrintable_quotation among)

theorem readQuoted?_quotation {cursor : Cursor} {text rest : List Char} (bound : Nat)
    (isNext : cursor.rest = quotation text ++ '"' :: rest) (behindQuote : cursor.column ≠ 0) :
    readQuoted? '"' (bound + 1) ⟨[], cursor, false⟩ =
      some ⟨text, ⟨rest, cursor.index + (quotation text).length + 1, cursor.line,
        cursor.column + (quotation text).length + 1⟩, false⟩ := by
  have inLine : cursor.atBoundary = false := by
    simp [Cursor.atBoundary, Cursor.atMarker, behindQuote]
  have behind := Cursor.advance_eq isNext fun c among =>
    isBreak_of_isPrintable (isPrintable_quotation among)
  have onLine : isBreak '"' = false := by decide
  have closed (index line column : Nat) :
      Cursor.skip ⟨'"' :: rest, index, line, column⟩ = ⟨rest, index + 1, line, column + 1⟩ :=
    Cursor.skip_eq rfl onLine
  simp [readQuoted?, inLine, isNext, doublePart?_quotation, behind, Cursor.peek?, closed]

/-! ## Digits -/

/-- What holds of ten characters holds of every digit. -/
theorem of_isDigit {holds : Char → Prop} (all : ∀ digit < 10, holds digit.digitChar) {c : Char}
    (isDigit : c.isDigit = true) : holds c := by
  have range : '0'.toNat ≤ c.toNat ∧ c.toNat ≤ '9'.toNat := by
    simp only [Char.isDigit, Bool.and_eq_true, decide_eq_true_eq] at isDigit
    exact isDigit
  have value : c.toNat - '0'.toNat < 10 := by
    have nine : '9'.toNat = '0'.toNat + 9 := rfl
    omega
  have same : Nat.digitChar (c.toNat - '0'.toNat) = c := by
    apply Char.toNat_inj.mp
    rw [Nat.toNat_digitChar_of_lt_ten value]
    exact Nat.add_sub_cancel' range.1
  exact same ▸ all _ value

/-- By induction on the digits. -/
theorem plainWord?_digits {digits rest : List Char} {c : Char}
    (areDigits : ∀ c ∈ digits, c.isDigit = true) (ends : c = ',' ∨ c = '\x7d') :
    plainWord? true (digits ++ c :: rest) = some digits := by
  induction digits with
  | nil =>
    rcases ends with rfl | rfl <;>
      simp [plainWord?, isSpace, isBlank, isBreak, isFlowIndicator]
  | cons digit digits ih =>
    rw [List.forall_mem_cons] at areDigits
    have kind : isSpace digit = false ∧ digit ≠ ':' ∧ isFlowIndicator digit = false := by
      apply of_isDigit _ areDigits.1
      decide
    simp [plainWord?, kind, ih areDigits.2]

theorem readPlain?_digits {cursor : Cursor} {digits rest : List Char} {c : Char} (indent : Int)
    (bound : Nat) (isNext : cursor.rest = digits ++ c :: rest) (notEmpty : digits ≠ [])
    (areDigits : ∀ c ∈ digits, c.isDigit = true) (ends : c = ',' ∨ c = '\x7d') :
    readPlain? true indent (bound + 1) [] ⟨[], cursor, false⟩ =
      some ⟨digits, ⟨c :: rest, cursor.index + digits.length, cursor.line,
        cursor.column + digits.length⟩, false⟩ := by
  have onLine : ∀ c ∈ digits, isBreak c = false := by
    intro c among
    apply of_isDigit _ (areDigits c among)
    decide
  have begins : cursor.atBoundary = false ∧ cursor.peek? ≠ some '#' := by
    obtain ⟨digit, more, rfl⟩ := List.exists_cons_of_ne_nil notEmpty
    have kind : digit ≠ '-' ∧ digit ≠ '.' ∧ digit ≠ '#' := by
      apply of_isDigit _ (areDigits digit List.mem_cons_self)
      decide
    constructor
    · rw [Cursor.atBoundary, Cursor.atMarker_eq_false isNext kind.1.symm,
        Cursor.atMarker_eq_false isNext kind.2.1.symm]
      rfl
    · simp [Cursor.peek?, isNext, kind.2.2]
  have noSpace : isSpace c = false := by
    rcases ends with rfl | rfl <;> decide
  simp [readPlain?, begins, isNext, plainWord?_digits areDigits ends,
    Cursor.advance_eq isNext onLine, notEmpty, Cursor.takeWhile, noSpace]

end OneHost.Yaml
