import OneHost.Proofs.Yaml.Quotation
import OneHost.Yaml.Token

/-!
# Lexing one line

A mapping in brackets on one line, without spaces between its parts, is cut into tokens from left to
right. Of the state of the lexer, `Before` says what the next token depends on. For each token that
can come next there is a lemma that takes a lexer before it to one behind it, and `Reaches` says that
what the one finds is what the other one finds after that.
-/

namespace OneHost.Yaml.Lexer

variable {lexer : Lexer} {depth : Nat} {keyFollows : Bool} {tokens : List Token}
  {rest : List Char} {c : Char}

/-! ## Where the lexer is -/

/-- The lexer is inside of so many brackets, on the only line of a text that begins with a bracket.
No key is required, and blocks have not begun. -/
structure Before (lexer : Lexer) (depth : Nat) (keyFollows : Bool) (tokens : List Token)
    (rest : List Char) : Prop where
  isNext : lexer.cursor.rest = rest
  emitted : lexer.tokens = tokens
  count : lexer.count = tokens.length
  mayBeginKey : lexer.mayBeginKey = keyFollows
  depth : lexer.candidates.length = depth + 1
  optional : ∀ candidate, some candidate ∈ lexer.candidates → candidate.required = false
  indent : lexer.indent = -1
  outer : lexer.outer = []
  bound : lexer.bound ≠ 0

/-- One lexer has the same tokens to come as another one has after some of its own, at most one for
each of so many characters. -/
def Reaches (lexer next : Lexer) (length : Nat) : Prop :=
  ∃ steps ≤ length, ∀ bound, run? (bound + steps) lexer = run? bound next

theorem Reaches.trans {middle next : Lexer} {first second : Nat}
    (front : lexer.Reaches middle first) (back : middle.Reaches next second) :
    lexer.Reaches next (first + second) := by
  obtain ⟨frontSteps, frontLess, front⟩ := front
  obtain ⟨backSteps, backLess, back⟩ := back
  refine ⟨backSteps + frontSteps, by omega, ?_⟩
  intro bound
  rw [← Nat.add_assoc, front, back]

/-- In brackets, indentation means nothing. -/
theorem Before.inFlow (before : lexer.Before (depth + 1) keyFollows tokens rest) :
    lexer.inFlow = true := by
  rw [Lexer.inFlow, before.depth]
  simp

/-! ## What comes before a token -/

/-- The characters that are neither passed over nor begin a comment. -/
def isSolid (c : Char) : Bool :=
  !isSpace c && c ≠ '#' && c ≠ '\ufeff'

theorem toNextToken_eq (bound : Nat) (solid : ∀ c ∈ lexer.cursor.peek?, isSolid c = true) :
    toNextToken bound lexer = lexer := by
  cases bound with
  | zero => rfl
  | succ bound =>
    unfold toNextToken
    cases next : lexer.cursor.peek? with
    | none =>
      have stays (kind : Char → Bool) : lexer.cursor.dropWhile kind = lexer.cursor :=
        Cursor.dropWhile_eq (by simp [next])
      simp [next, stays, Cursor.dropComment]
    | some c =>
      have solid := solid c next
      simp only [isSolid, isSpace, isBlank, Bool.and_eq_true, Bool.not_eq_true',
        Bool.or_eq_false_iff, decide_eq_false_iff_not, decide_eq_true_eq] at solid
      obtain ⟨⟨⟨⟨noSpace, noTab⟩, noBreak⟩, noComment⟩, noMark⟩ := solid
      have stays (tabs : Bool) :
          lexer.cursor.dropWhile (fun c => c = ' ' || (tabs && c = '\t')) = lexer.cursor :=
        Cursor.dropWhile_eq (by simp [next, noSpace, noTab])
      simp [next, noMark, stays, Cursor.dropComment, noComment, endsLine, noBreak]

/-- The place where a key may have begun, unless it is too far behind. -/
def fresh (lexer : Lexer) (candidate : Option Candidate) : Option Candidate :=
  candidate.filter fun candidate =>
    !(candidate.line < lexer.cursor.line || candidate.index + 1024 < lexer.cursor.index)

/-- The lexer without the places that are too far behind. -/
def freshened (lexer : Lexer) : Lexer :=
  { lexer with candidates := lexer.candidates.map lexer.fresh }

theorem dropStale?_eq
    (optional : ∀ candidate, some candidate ∈ lexer.candidates → candidate.required = false) :
    lexer.dropStale? = some lexer.freshened := by
  unfold dropStale?
  rw [@mapM_eq_some_map _ _ _ lexer.fresh]
  · rfl
  · intro candidate among
    cases candidate with
    | none => rfl
    | some candidate =>
      simp only [fresh, Option.filter_some, optional candidate among]
      cases candidate.line < lexer.cursor.line || candidate.index + 1024 < lexer.cursor.index with
      | true => rfl
      | false => rfl

theorem Before.freshened (before : lexer.Before depth keyFollows tokens rest) :
    lexer.freshened.Before depth keyFollows tokens rest where
  isNext := before.isNext
  emitted := before.emitted
  count := before.count
  mayBeginKey := before.mayBeginKey
  depth := by rw [Lexer.freshened, List.length_map, before.depth]
  optional := by
    intro candidate among
    obtain ⟨_, wasAmong, isFresh⟩ := List.mem_map.mp among
    rw [fresh, Option.filter_eq_some_iff] at isFresh
    exact before.optional candidate (isFresh.1 ▸ wasAmong)
  indent := before.indent
  outer := before.outer
  bound := before.bound

theorem Before.unrollTo_eq (before : lexer.Before depth keyFollows tokens rest) (column : Int) :
    lexer.unrollTo column = lexer := by
  rw [unrollTo, before.outer]
  split <;> rfl

/-- What is taken without the places that are too far behind is the next token. -/
theorem Before.passes {isNext : Lexer → Prop}
    (before : lexer.Before depth keyFollows tokens (c :: rest)) (solid : isSolid c = true)
    (takes : ∃ next, lexer.freshened.take? c = some next ∧ isNext next) :
    ∃ next, isNext next ∧ lexer.Reaches next 1 := by
  obtain ⟨next, takes, isNext⟩ := takes
  refine ⟨next, isNext, 1, Nat.le_refl 1, ?_⟩
  intro bound
  have next : lexer.cursor.peek? = some c := by rw [Cursor.peek?, before.isNext, List.head?_cons]
  rw [run?, toNextToken_eq _ (by simpa [next] using solid), dropStale?_eq before.optional]
  dsimp only [bind, Option.bind]
  rw [before.freshened.unrollTo_eq, before.freshened.isNext]
  dsimp only
  rw [takes]

/-! ## One token -/

theorem Before.cleared {candidate : Option Candidate} {others : List (Option Candidate)}
    (before : lexer.Before depth keyFollows tokens rest)
    (candidates : lexer.candidates = candidate :: others) :
    Before { lexer with candidates := none :: others } depth keyFollows tokens rest :=
  { before with
    depth := by
      have depth := before.depth
      rwa [candidates] at depth
    optional := by
      intro candidate among
      apply before.optional
      rw [candidates]
      exact List.mem_cons_of_mem _ (by simpa using among) }

theorem Before.dropCandidate? (before : lexer.Before depth keyFollows tokens rest) :
    ∃ dropped, lexer.dropCandidate? = some dropped ∧ dropped.cursor = lexer.cursor ∧
      dropped.Before depth keyFollows tokens rest := by
  unfold Lexer.dropCandidate?
  split
  · rename_i candidate others candidates
    have notRequired := before.optional candidate (by simp [candidates])
    rw [if_neg (by simp [notRequired])]
    exact ⟨_, rfl, rfl, before.cleared candidates⟩
  · exact ⟨lexer, rfl, rfl, before⟩

/-- A key that begins here is remembered. -/
theorem Before.saveCandidate? (before : lexer.Before depth keyFollows tokens rest) :
    ∃ saved, lexer.saveCandidate? = some saved ∧ saved.cursor = lexer.cursor ∧
      saved.Before depth keyFollows tokens rest ∧
      (keyFollows = true →
        ∃ others, saved.candidates = some ⟨tokens.length, false, lexer.cursor.index,
          lexer.cursor.line, lexer.cursor.column⟩ :: others) := by
  unfold Lexer.saveCandidate?
  split
  · obtain ⟨dropped, drops, sameCursor, before⟩ := before.dropCandidate?
    have noBlock (column : Nat) : dropped.indent ≠ column := by
      rw [before.indent]
      omega
    rw [drops]
    refine ⟨_, rfl, sameCursor, { before with depth := ?_, optional := ?_ }, ?_⟩
    · rw [List.length_cons, List.length_drop, before.depth, Nat.add_sub_cancel]
    · intro candidate among
      rw [List.mem_cons] at among
      rcases among with isNew | among
      · rw [Option.some.inj isNew]
        simp [noBlock]
      · exact before.optional candidate (List.mem_of_mem_drop among)
    · intro _
      simp [noBlock, sameCursor, before.count]
  · rename_i noKey
    rw [before.mayBeginKey] at noKey
    exact ⟨lexer, rfl, rfl, before, fun keyFollows => absurd keyFollows noKey⟩

theorem Before.emit (before : lexer.Before depth keyFollows tokens rest) (token : Token)
    (cursor : Cursor) (mayBeginKey : Bool) :
    Before { lexer.emit token with cursor, mayBeginKey } depth mayBeginKey (token :: tokens)
      cursor.rest :=
  { before with
    isNext := rfl
    emitted := congrArg (token :: ·) before.emitted
    count := congrArg (· + 1) before.count
    mayBeginKey := rfl }

/-- What begins with some character is not a directive, nor one of the marks around a document. -/
theorem Before.notMarker (before : lexer.Before depth keyFollows tokens (c :: rest))
    (noDash : '-' ≠ c) (noDot : '.' ≠ c) :
    lexer.cursor.atMarker ['-', '-', '-'] = false ∧
      lexer.cursor.atMarker ['.', '.', '.'] = false :=
  ⟨Cursor.atMarker_eq_false before.isNext noDash, Cursor.atMarker_eq_false before.isNext noDot⟩

theorem Before.opens (before : lexer.Before depth keyFollows tokens ('\x7b' :: rest)) :
    ∃ next, lexer.take? '\x7b' = some next ∧
      next.Before (depth + 1) true (.flowMapping :: tokens) rest := by
  obtain ⟨noDashes, noDots⟩ := before.notMarker (by decide) (by decide)
  obtain ⟨saved, saves, sameCursor, before, -⟩ := before.saveCandidate?
  have behind := Cursor.skip_eq before.isNext (by decide)
  refine ⟨{ saved.emitChar .flowMapping with
    candidates := none :: saved.candidates, mayBeginKey := true }, ?_, ?_⟩
  · simp [take?, noDashes, noDots, openFlow?, saves]
  · refine { before.emit .flowMapping saved.cursor.skip true with
      isNext := congrArg Cursor.rest behind
      depth := ?_
      optional := ?_ }
    · exact congrArg (· + 1) before.depth
    · intro candidate among
      exact before.optional candidate (by simpa using among)

theorem Before.closes (before : lexer.Before (depth + 1) keyFollows tokens ('\x7d' :: rest)) :
    ∃ next, lexer.take? '\x7d' = some next ∧
      next.Before depth false (.flowMappingEnd :: tokens) rest := by
  obtain ⟨noDashes, noDots⟩ := before.notMarker (by decide) (by decide)
  obtain ⟨dropped, drops, sameCursor, before⟩ := before.dropCandidate?
  have behind := Cursor.skip_eq before.isNext (by decide)
  refine ⟨{ dropped.emitChar .flowMappingEnd with
    candidates := dropped.candidates.drop 1, mayBeginKey := false }, ?_, ?_⟩
  · simp [take?, noDashes, noDots, closeFlow?, drops, before.inFlow]
  · refine { before.emit .flowMappingEnd dropped.cursor.skip false with
      isNext := congrArg Cursor.rest behind
      depth := ?_
      optional := ?_ }
    · rw [List.length_drop, before.depth, Nat.add_sub_cancel]
    · intro candidate among
      exact before.optional candidate (List.mem_of_mem_drop among)

theorem Before.separates (before : lexer.Before depth keyFollows tokens (',' :: rest)) :
    ∃ next, lexer.take? ',' = some next ∧ next.Before depth true (.comma :: tokens) rest := by
  obtain ⟨noDashes, noDots⟩ := before.notMarker (by decide) (by decide)
  obtain ⟨dropped, drops, sameCursor, before⟩ := before.dropCandidate?
  have behind := Cursor.skip_eq before.isNext (by decide)
  refine ⟨{ dropped.emitChar .comma with mayBeginKey := true }, ?_, ?_⟩
  · simp [take?, noDashes, noDots, drops]
  · exact { before.emit .comma dropped.cursor.skip true with
      isNext := congrArg Cursor.rest behind }

/-- A text in quotes. If a key may begin here, it may be this one. -/
theorem Before.quoted {text : List Char}
    (before : lexer.Before depth keyFollows tokens ('"' :: (quotation text ++ '"' :: rest))) :
    ∃ next, lexer.take? '"' = some next ∧
      next.Before depth false (.scalar .quoted text :: tokens) rest ∧
      next.cursor.line = lexer.cursor.line ∧
      next.cursor.index = lexer.cursor.index + ((quotation text).length + 2) ∧
      (keyFollows = true →
        ∃ others, next.candidates = some ⟨tokens.length, false, lexer.cursor.index,
          lexer.cursor.line, lexer.cursor.column⟩ :: others) := by
  obtain ⟨noDashes, noDots⟩ := before.notMarker (by decide) (by decide)
  obtain ⟨bound, isBound⟩ := Nat.exists_eq_succ_of_ne_zero before.bound
  have behind := Cursor.skip_eq before.isNext (by decide)
  obtain ⟨saved, saves, sameCursor, before, candidate⟩ := before.saveCandidate?
  let after : Cursor := ⟨rest, lexer.cursor.index + 1 + (quotation text).length + 1,
    lexer.cursor.line, lexer.cursor.column + 1 + (quotation text).length + 1⟩
  have reads : readQuoted? '"' lexer.bound ⟨[], lexer.cursor.skip, false⟩ =
      some ⟨text, after, false⟩ := by
    rw [behind, isBound]
    exact readQuoted?_quotation bound rfl (Nat.succ_ne_zero _)
  refine ⟨{ saved.emit (.scalar .quoted text) with cursor := after, mayBeginKey := false }, ?_,
    before.emit (.scalar .quoted text) after false, rfl, ?_, candidate⟩
  · simp [take?, noDashes, noDots, node?, saves, sameCursor, reads]
  · change _ + 1 + _ + 1 = _
    omega

/-- Digits, where no key may begin. -/
theorem Before.number {digit : Char} {more : List Char}
    (before : lexer.Before (depth + 1) false tokens (digit :: (more ++ c :: rest)))
    (areDigits : ∀ c ∈ digit :: more, c.isDigit = true) (ends : c = ',' ∨ c = '\x7d') :
    ∃ next, lexer.take? digit = some next ∧
      next.Before (depth + 1) false (.scalar .plain (digit :: more) :: tokens) (c :: rest) := by
  have begins : isSpace digit = false ∧
      "-?:,[]\x7b\x7d#&*!|>\x27\"%@\x60".toList.contains digit = false ∧ '.' ≠ digit := by
    apply of_isDigit _ (areDigits digit List.mem_cons_self)
    decide
  obtain ⟨noSpace, noIndicator, noDot⟩ := begins
  simp only [String.reduceToList, List.contains_cons, List.contains_nil, Bool.or_eq_false_iff,
    beq_eq_false_iff_ne, ne_eq] at noIndicator
  have plain (next : Option Char) : beginsPlain true digit next = true := by
    simp [beginsPlain, noSpace, noIndicator]
  obtain ⟨noDashes, noDots⟩ := before.notMarker (Ne.symm noIndicator.1) noDot
  obtain ⟨bound, isBound⟩ := Nat.exists_eq_succ_of_ne_zero before.bound
  have key := before.mayBeginKey
  let after : Cursor := ⟨c :: rest, lexer.cursor.index + (digit :: more).length,
    lexer.cursor.line, lexer.cursor.column + (digit :: more).length⟩
  have reads : readPlain? true (lexer.indent + 1) lexer.bound [] ⟨[], lexer.cursor, false⟩ =
      some ⟨digit :: more, after, false⟩ := by
    rw [isBound]
    exact readPlain?_digits _ bound before.isNext (by simp) areDigits ends
  refine ⟨{ lexer.emit (.scalar .plain (digit :: more)) with
    cursor := after, mayBeginKey := false }, ?_,
    before.emit (.scalar .plain (digit :: more)) after false⟩
  simp [take?, noDashes, noDots, before.inFlow, noIndicator, plain, plain?, Lexer.saveCandidate?, key,
    reads]

theorem roll_inFlow {column position : Nat} {token : Token} (inFlow : lexer.inFlow = true) :
    lexer.roll column position token = lexer := by
  simp [roll, inFlow]

/-- A colon behind what may have been a key: it was one. -/
theorem Before.colon {scalar : Token} {candidate : Candidate} {others : List (Option Candidate)}
    (before : lexer.Before (depth + 1) keyFollows (scalar :: tokens) (':' :: rest))
    (candidates : lexer.candidates = some candidate :: others)
    (position : candidate.position = tokens.length) :
    ∃ next, lexer.take? ':' = some next ∧
      next.Before (depth + 1) false (.value :: scalar :: .key :: tokens) rest := by
  obtain ⟨noDashes, noDots⟩ := before.notMarker (by decide) (by decide)
  have behind := Cursor.skip_eq before.isNext (by decide)
  -- The token of the key goes in front of the scalar, which is the last one.
  have emits : (lexer.emitAt candidate.position .key).roll candidate.column candidate.position
      .blockMapping =
        { lexer with tokens := scalar :: .key :: tokens, count := lexer.count + 1 } := by
    have last : lexer.count - candidate.position = 1 := by
      rw [before.count, position, List.length_cons, Nat.add_sub_cancel_left]
    have still : (lexer.emitAt candidate.position .key).inFlow = true := before.inFlow
    rw [roll_inFlow still]
    simp [emitAt, last, before.emitted]
  refine ⟨{ lexer with
    tokens := .value :: scalar :: .key :: tokens, count := lexer.count + 2,
    cursor := lexer.cursor.skip, candidates := none :: others, mayBeginKey := false }, ?_, ?_⟩
  · simp [take?, noDashes, noDots, value?, candidates, emits, before.inFlow, emitChar, Lexer.emit]
  · exact { before.cleared candidates with
      isNext := congrArg Cursor.rest behind
      emitted := rfl
      count := congrArg (· + 2) before.count
      mayBeginKey := rfl }

/-! ## Several tokens -/

/-- A key in quotes with its colon, as long as it is not too long for one. -/
theorem Before.key {name : List Char} (short : (quotation name).length + 2 ≤ 1024)
    (before : lexer.Before (depth + 1) true tokens
      ('"' :: (quotation name ++ '"' :: ':' :: rest))) :
    ∃ next, next.Before (depth + 1) false (.value :: .scalar .quoted name :: .key :: tokens) rest ∧
      lexer.Reaches next ((quotation name).length + 3) := by
  obtain ⟨named, ⟨atColon, sameLine, near, candidates⟩, front⟩ :=
    before.passes (by decide) before.freshened.quoted
  obtain ⟨others, candidates⟩ := candidates rfl
  -- The key is not too far behind at its colon, so it is not given up.
  have kept : named.freshened.candidates = some ⟨tokens.length, false, lexer.freshened.cursor.index,
      lexer.freshened.cursor.line, lexer.freshened.cursor.column⟩ :: others.map named.fresh := by
    rw [Lexer.freshened, candidates, List.map_cons, fresh, Option.filter_some]
    simp [sameLine, near, short]
  obtain ⟨next, after, back⟩ := atColon.passes (by decide) (atColon.freshened.colon kept rfl)
  refine ⟨next, after, ?_⟩
  obtain ⟨steps, few, reaches⟩ := front.trans back
  exact ⟨steps, by omega, reaches⟩

/-! ## The end of the text -/

theorem Before.finishes (before : lexer.Before depth keyFollows tokens []) (bound : Nat) :
    ∃ last, run? (bound + 1) lexer = some last ∧ last.tokens = tokens := by
  obtain ⟨last, drops, -, after⟩ := before.freshened.dropCandidate?
  refine ⟨last, ?_, after.emitted⟩
  have noneLeft : lexer.cursor.peek? = none := by rw [Cursor.peek?, before.isNext, List.head?_nil]
  rw [run?, toNextToken_eq _ (by simp [noneLeft]), dropStale?_eq before.optional]
  dsimp only [bind, Option.bind]
  rw [before.freshened.unrollTo_eq, before.freshened.isNext]
  dsimp only
  rw [before.freshened.unrollTo_eq, drops]

end OneHost.Yaml.Lexer
