import OneHost.Proofs.Yaml.Lexing
import OneHost.Yaml.Tree

/-!
# Trees on one line

Texts between double quotes, numbers, and mappings of these in brackets: an `Inline` is the
characters of such a value together with the tree that is read from them. Its tokens stand in
between, and a mapping is read as its entries are, one after the other. `read?_mapping` says this of
a whole text.
-/

namespace OneHost.Yaml

/-! ## From tokens to trees -/

namespace Build

variable {token : Token} {rest : List Token} {shorthands : List (List Char × List Char)}
  {names : List (List Char × Nat)} {named : List (Nat × Document)}

theorem run_accept (other : Token) :
    (accept other).run ⟨token :: rest, shorthands, names, named⟩ =
      if token = other then some (true, ⟨rest, shorthands, names, named⟩)
      else some (false, ⟨token :: rest, shorthands, names, named⟩) := by
  by_cases same : token = other
  · subst same
    simp [accept, peek?, skip]
  · simp [accept, peek?, same]

theorem run_isNext (tokens : List Token) :
    (isNext tokens).run ⟨token :: rest, shorthands, names, named⟩ =
      some (tokens.contains token, ⟨token :: rest, shorthands, names, named⟩) := by
  simp [isNext, peek?]

end Build

/-- Some tokens are read as a node, wherever a node may stand. -/
structure Builds (tokens : List Token) (document : Document) : Prop where
  begins : ∃ first more, tokens = first :: more ∧ first ≠ .comma ∧ first ≠ .flowMappingEnd
  reads : ∀ {bound : Nat} {inBlock loose : Bool} {builder : Builder} {rest : List Token},
    2 * tokens.length ≤ bound → builder.tokens = tokens ++ rest →
      (Build.node bound inBlock loose).run builder =
        some (document, { builder with tokens := rest })

theorem Builds.scalar (style : Style) (text : List Char) :
    Builds [.scalar style text] (.scalar none style (String.ofList text)) where
  begins := ⟨_, _, rfl, by simp, by simp⟩
  reads := by
    intro bound inBlock loose builder rest enough isNext
    obtain ⟨bound, rfl⟩ := Nat.exists_eq_succ_of_ne_zero (by simp at enough; omega : bound ≠ 0)
    obtain ⟨_, _, _, _⟩ := builder
    cases isNext
    rw [Build.node]
    rfl

/-- A node is read unless the tokens in front of it say that it is left out. -/
theorem Builds.nodeUnless {tokens ends : List Token} {document : Document}
    (builds : Builds tokens document) (goesOn : ∀ token ∈ tokens.head?, token ∉ ends) {bound : Nat}
    {builder : Builder} {rest : List Token} (enough : 2 * tokens.length + 1 ≤ bound)
    (isNext : builder.tokens = tokens ++ rest) :
    (Build.nodeUnless bound ends false false).run builder =
      some (document, { builder with tokens := rest }) := by
  obtain ⟨first, more, rfl, -⟩ := builds.begins
  obtain ⟨bound, rfl⟩ := Nat.exists_eq_succ_of_ne_zero (by omega : bound ≠ 0)
  have reads : (Build.node bound false false).run builder =
      some (document, { builder with tokens := rest }) :=
    builds.reads (Nat.le_of_succ_le_succ enough) isNext
  obtain ⟨_, _, _, _⟩ := builder
  cases isNext
  have noEnd : first ∉ ends := goesOn first rfl
  simpa [Build.nodeUnless, Build.run_isNext, noEnd] using reads

/-- The tokens of an entry of a mapping. -/
def entryTokens (name : String) (value : List Token) : List Token :=
  .key :: .scalar .quoted name.toList :: .value :: value

theorem Builds.flowEntries {tokens : List Token} {document : Document}
    (builds : Builds tokens document) {name : String} {bound : Nat} {isFirst : Bool}
    {builder : Builder} {rest : List Token} (enough : 2 * tokens.length + 1 ≤ bound)
    (isNext : builder.tokens =
      (if isFirst then [] else [.comma]) ++ (entryTokens name tokens ++ rest)) :
    (Build.flowEntries (bound + 1) isFirst).run builder =
      ((Build.flowEntries bound false).run { builder with tokens := rest }).map
        fun read => ((.text name, document) :: read.1, read.2) := by
  obtain ⟨first, more, isFirstToken, noComma, noEnd⟩ := builds.begins
  have notEmpty : 1 ≤ tokens.length := by simp [isFirstToken]
  obtain ⟨_, shorthands, names, named⟩ := builder
  cases isNext
  have key : (Build.nodeUnless bound [.value, .comma, .flowMappingEnd] false false).run
      ⟨.scalar .quoted name.toList :: .value :: (tokens ++ rest), shorthands, names, named⟩ =
        some (.text name, ⟨.value :: (tokens ++ rest), shorthands, names, named⟩) := by
    have builds := Builds.scalar .quoted name.toList
    rw [String.ofList_toList] at builds
    exact builds.nodeUnless (by simp) (by simp; omega) rfl
  have value : (Build.nodeUnless bound [.comma, .flowMappingEnd] false false).run
      ⟨tokens ++ rest, shorthands, names, named⟩ =
        some (document, ⟨rest, shorthands, names, named⟩) :=
    builds.nodeUnless (by simp [isFirstToken, noComma, noEnd]) enough rfl
  rw [Build.flowEntries]
  cases isFirst with
  | true => simp [entryTokens, Build.run_accept, key, value]
  | false => simp [Build.expect, entryTokens, Build.run_accept, key, value]

/-! ## From characters to tokens -/

/-- Some characters are cut into some tokens where a value stands in brackets. -/
def Cuts (chars : List Char) (tokens : List Token) : Prop :=
  ∀ {lexer : Lexer} {depth : Nat} {emitted : List Token} {c : Char} {rest : List Char},
    lexer.Before (depth + 1) false emitted (chars ++ c :: rest) → c = ',' ∨ c = '\x7d' →
      ∃ next, next.Before (depth + 1) false (tokens.reverse ++ emitted) (c :: rest) ∧
        lexer.Reaches next chars.length

theorem Cuts.quoted (text : List Char) :
    Cuts ('"' :: (quotation text ++ ['"'])) [.scalar .quoted text] := by
  intro lexer depth emitted c rest before _
  rw [List.cons_append, List.append_assoc, List.singleton_append] at before
  obtain ⟨next, ⟨after, -⟩, steps, few, reaches⟩ :=
    before.passes (by decide) before.freshened.quoted
  exact ⟨next, after, steps, by simp; omega, reaches⟩

theorem Cuts.digits {digits : List Char} (notEmpty : digits ≠ [])
    (areDigits : ∀ c ∈ digits, c.isDigit = true) : Cuts digits [.scalar .plain digits] := by
  intro lexer depth emitted c rest before ends
  obtain ⟨digit, more, rfl⟩ := List.exists_cons_of_ne_nil notEmpty
  have solid : Lexer.isSolid digit = true := by
    apply of_isDigit _ (areDigits digit List.mem_cons_self)
    decide
  obtain ⟨next, after, steps, few, reaches⟩ :=
    before.passes solid (before.freshened.number areDigits ends)
  exact ⟨next, after, steps, by simp; omega, reaches⟩

/-! ## Values -/

/-- A value on one line: its characters, their tokens and the tree that these stand for. -/
structure Inline where
  chars : List Char
  tokens : List Token
  document : Document
  cuts : Cuts chars tokens
  builds : Builds tokens document
  allowed : chars.all isAllowed = true

namespace Inline

/-- A text, in quotes. -/
def text (text : String) : Inline where
  chars := '"' :: (quotation text.toList ++ ['"'])
  tokens := [.scalar .quoted text.toList]
  document := .text text
  cuts := Cuts.quoted text.toList
  builds := by
    have builds := Builds.scalar .quoted text.toList
    rwa [String.ofList_toList] at builds
  allowed := by
    have quote : isAllowed '"' = true := by decide
    simp [isAllowed_quotation, quote]

/-- A number, in decimal digits. -/
def number (value : Nat) : Inline where
  chars := Nat.toDigits 10 value
  tokens := [.scalar .plain (Nat.toDigits 10 value)]
  document := .natural value
  cuts := Cuts.digits Nat.toDigits_ne_nil fun _ among =>
    Nat.isDigit_of_mem_toDigits (by decide) (by decide) among
  builds := Builds.scalar .plain (Nat.toDigits 10 value)
  allowed := by
    rw [List.all_eq_true]
    intro c among
    apply of_isDigit _ (Nat.isDigit_of_mem_toDigits (by decide) (by decide) among)
    decide

/-- An entry of a mapping. Its name is short enough for a key. -/
structure Entry where
  name : String
  value : Inline
  short : (quotation name.toList).length + 2 ≤ 1024

namespace Entry

/-- The characters of an entry. -/
def chars (entry : Entry) : List Char :=
  '"' :: (quotation entry.name.toList ++ '"' :: ':' :: entry.value.chars)

/-- The tokens of an entry. -/
def tokens (entry : Entry) : List Token :=
  entryTokens entry.name entry.value.tokens

/-- The nodes of an entry. -/
def nodes (entry : Entry) : Document × Document :=
  (.text entry.name, entry.value.document)

theorem allowed (entry : Entry) : entry.chars.all isAllowed = true := by
  have quote : isAllowed '"' = true := by decide
  have colon : isAllowed ':' = true := by decide
  simp [chars, isAllowed_quotation, entry.value.allowed, quote, colon]

theorem cuts (entry : Entry) {lexer : Lexer} {depth : Nat} {emitted : List Token} {c : Char}
    {rest : List Char} (before : lexer.Before (depth + 1) true emitted (entry.chars ++ c :: rest))
    (ends : c = ',' ∨ c = '\x7d') :
    ∃ next, next.Before (depth + 1) false (entry.tokens.reverse ++ emitted) (c :: rest) ∧
      lexer.Reaches next entry.chars.length := by
  simp only [chars, List.cons_append, List.append_assoc] at before
  obtain ⟨named, atValue, front⟩ := before.key entry.short
  obtain ⟨next, after, back⟩ := entry.value.cuts atValue ends
  refine ⟨next, ?_, ?_⟩
  · simpa [tokens, entryTokens] using after
  · obtain ⟨steps, few, reaches⟩ := front.trans back
    exact ⟨steps, by simp [chars]; omega, reaches⟩

end Entry

/-- The characters of all entries but the first. -/
def moreChars (entries : List Entry) : List Char :=
  entries.flatMap fun entry => ',' :: entry.chars

/-- The tokens of all entries but the first. -/
def moreTokens (entries : List Entry) : List Token :=
  entries.flatMap fun entry => .comma :: entry.tokens

theorem moreChars_allowed (entries : List Entry) : (moreChars entries).all isAllowed = true := by
  have comma : isAllowed ',' = true := by decide
  simp [moreChars, List.all_flatMap, Entry.allowed, comma]

theorem moreChars_ends (entries : List Entry) (rest : List Char) :
    ∃ c behind, moreChars entries ++ '\x7d' :: rest = c :: behind ∧ (c = ',' ∨ c = '\x7d') := by
  cases entries with
  | nil => exact ⟨_, _, rfl, .inr rfl⟩
  | cons entry entries => exact ⟨_, _, rfl, .inl rfl⟩

/-- By induction on the entries, each of which ends before a comma or the closing bracket. -/
theorem moreChars_cut (entries : List Entry) {lexer : Lexer} {depth : Nat} {emitted : List Token}
    {rest : List Char}
    (before : lexer.Before (depth + 1) false emitted (moreChars entries ++ '\x7d' :: rest)) :
    ∃ next, next.Before (depth + 1) false ((moreTokens entries).reverse ++ emitted)
        ('\x7d' :: rest) ∧
      lexer.Reaches next (moreChars entries).length := by
  induction entries generalizing lexer emitted with
  | nil => exact ⟨lexer, before, 0, Nat.zero_le _, fun _ => rfl⟩
  | cons entry entries ih =>
    obtain ⟨c, more, behind, ends⟩ := moreChars_ends entries rest
    simp only [moreChars, List.flatMap_cons, List.cons_append, List.append_assoc] at before
    rw [← moreChars, behind] at before
    obtain ⟨atEntry, before, comma⟩ := before.passes (by decide) before.freshened.separates
    obtain ⟨atMore, before, front⟩ := entry.cuts before ends
    rw [← behind] at before
    obtain ⟨next, after, back⟩ := ih before
    refine ⟨next, ?_, ?_⟩
    · simpa [moreTokens] using after
    · obtain ⟨steps, few, reaches⟩ := (comma.trans front).trans back
      refine ⟨steps, ?_, reaches⟩
      simp [moreChars] at few ⊢
      omega

/-- By induction on the entries. -/
theorem moreTokens_read (entries : List Entry) {bound : Nat} {builder : Builder}
    {rest : List Token} (enough : 2 * (moreTokens entries).length + 1 ≤ bound)
    (isNext : builder.tokens = moreTokens entries ++ .flowMappingEnd :: rest) :
    (Build.flowEntries bound false).run builder =
      some (entries.map Entry.nodes, { builder with tokens := rest }) := by
  obtain ⟨bound, rfl⟩ := Nat.exists_eq_succ_of_ne_zero (by omega : bound ≠ 0)
  induction entries generalizing bound builder with
  | nil =>
    obtain ⟨_, _, _, _⟩ := builder
    cases isNext
    simp [Build.flowEntries, Build.run_accept]
  | cons entry entries ih =>
    have length : (moreTokens (entry :: entries)).length =
        4 + entry.value.tokens.length + (moreTokens entries).length := by
      simp [moreTokens, Entry.tokens, entryTokens]
      omega
    rw [length] at enough
    obtain ⟨bound, rfl⟩ := Nat.exists_eq_succ_of_ne_zero (by omega : bound ≠ 0)
    have first : (Build.flowEntries (bound + 1 + 1) false).run builder =
        ((Build.flowEntries (bound + 1) false).run
          { builder with tokens := moreTokens entries ++ .flowMappingEnd :: rest }).map
            fun read => (entry.nodes :: read.1, read.2) := by
      apply entry.value.builds.flowEntries
      · omega
      · rw [isNext]
        simp [moreTokens, Entry.tokens]
    rw [first, ih rfl bound (by omega)]
    rfl

/-- The characters of a mapping of one or more entries. -/
def mappingChars (first : Entry) (more : List Entry) : List Char :=
  '\x7b' :: (first.chars ++ (moreChars more ++ ['\x7d']))

/-- The tokens of a mapping of one or more entries. -/
def mappingTokens (first : Entry) (more : List Entry) : List Token :=
  .flowMapping :: (first.tokens ++ (moreTokens more ++ [.flowMappingEnd]))

theorem mappingChars_cut (first : Entry) (more : List Entry) {lexer : Lexer} {depth : Nat}
    {keyFollows : Bool} {emitted : List Token} {rest : List Char}
    (before : lexer.Before depth keyFollows emitted (mappingChars first more ++ rest)) :
    ∃ next, next.Before depth false ((mappingTokens first more).reverse ++ emitted) rest ∧
      lexer.Reaches next (mappingChars first more).length := by
  obtain ⟨c, behind, isBehind, ends⟩ := moreChars_ends more rest
  simp only [mappingChars, List.cons_append, List.append_assoc, List.nil_append] at before
  rw [isBehind] at before
  obtain ⟨atFirst, before, opening⟩ := before.passes (by decide) before.freshened.opens
  obtain ⟨atMore, before, front⟩ := first.cuts before ends
  rw [← isBehind] at before
  obtain ⟨atEnd, before, back⟩ := moreChars_cut more before
  obtain ⟨next, after, closing⟩ := before.passes (by decide) before.freshened.closes
  refine ⟨next, ?_, ?_⟩
  · simpa [mappingTokens] using after
  · obtain ⟨steps, few, reaches⟩ := ((opening.trans front).trans back).trans closing
    exact ⟨steps, by simp [mappingChars]; omega, reaches⟩

theorem mappingTokens_build (first : Entry) (more : List Entry) :
    Builds (mappingTokens first more) (.mapping none ((first :: more).map Entry.nodes)) where
  begins := ⟨_, _, rfl, by simp, by simp⟩
  reads := by
    intro bound inBlock loose builder rest enough isNext
    have length : (mappingTokens first more).length =
        5 + first.value.tokens.length + (moreTokens more).length := by
      simp [mappingTokens, Entry.tokens, entryTokens]
      omega
    rw [length] at enough
    obtain ⟨bound, rfl⟩ := Nat.exists_eq_add_of_le' (by omega : 2 ≤ bound)
    obtain ⟨_, shorthands, names, named⟩ := builder
    cases isNext
    have entries : (Build.flowEntries (bound + 1) true).run
        ⟨first.tokens ++ (moreTokens more ++ .flowMappingEnd :: rest), shorthands, names, named⟩ =
          some ((first :: more).map Entry.nodes, ⟨rest, shorthands, names, named⟩) := by
      rw [first.value.builds.flowEntries (by omega) rfl, moreTokens_read more (by omega) rfl]
      rfl
    simp [Build.node, Build.peek?, Build.skip, Build.properties, Build.number,
      Build.keep, entries]

/-- A mapping of one or more entries. -/
def mapping (first : Entry) (more : List Entry) : Inline where
  chars := mappingChars first more
  tokens := mappingTokens first more
  document := .mapping none ((first :: more).map Entry.nodes)
  cuts := fun before _ => mappingChars_cut first more before
  builds := mappingTokens_build first more
  allowed := by
    have opening : isAllowed '\x7b' = true := by decide
    have closing : isAllowed '\x7d' = true := by decide
    simp [mappingChars, first.allowed, moreChars_allowed, opening, closing]

/-! ## A whole text -/

theorem run_document {tokens more : List Token} {document : Document}
    (builds : Builds tokens document) (begins : tokens = .flowMapping :: more) {bound : Nat}
    (enough : 2 * tokens.length ≤ bound) :
    (Build.document bound).run { tokens } =
      some (document, { tokens := [], shorthands := Build.standardShorthands }) := by
  have root : (Build.node bound true false).run { tokens, shorthands := Build.standardShorthands } =
      some (document, { tokens := [], shorthands := Build.standardShorthands }) :=
    builds.reads enough (List.append_nil _).symm
  subst begins
  simp [Build.document, Build.peek?, Build.directives, root]

theorem tokens?_mapping (first : Entry) (more : List Entry) :
    tokens? (String.ofList (mapping first more).chars) = some (mapping first more).tokens := by
  let length := (mapping first more).chars.length
  let lexer : Lexer := { cursor := { rest := (mapping first more).chars }, bound := length + 1 }
  have before : lexer.Before 0 true [] ((mapping first more).chars ++ []) :=
    { isNext := (List.append_nil _).symm
      emitted := rfl
      count := rfl
      mayBeginKey := rfl
      depth := rfl
      optional := by simp [lexer]
      indent := rfl
      outer := rfl
      bound := Nat.succ_ne_zero _ }
  obtain ⟨next, after, steps, few, reaches⟩ := mappingChars_cut first more before
  obtain ⟨last, isLast, sameTokens⟩ := after.finishes (length - steps)
  have runs := reaches (length - steps + 1)
  have enough : length - steps + 1 + steps = length + 1 := by
    have : steps ≤ length := few
    omega
  rw [enough, isLast] at runs
  rw [tokens?, String.toList_ofList]
  change (if (mapping first more).chars.all isAllowed = true then
    (Lexer.run? (length + 1) _).bind fun lexer => some lexer.tokens.reverse else none) = _
  rw [if_pos (mapping first more).allowed]
  change (Lexer.run? (length + 1) lexer).bind _ = _
  rw [runs]
  simp [sameTokens, mapping]

theorem read?_mapping (first : Entry) (more : List Entry) :
    read? (String.ofList (mapping first more).chars) =
      some { root := (mapping first more).document } := by
  have root := run_document (mappingTokens_build first more) rfl
    (by omega : _ ≤ 4 * (mappingTokens first more).length + 8)
  rw [read?, tokens?_mapping]
  dsimp only [bind, Option.bind]
  rw [mapping, root]
  rfl

end Inline

end OneHost.Yaml
