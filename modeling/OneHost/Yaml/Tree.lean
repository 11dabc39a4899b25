import OneHost.Yaml.Token

/-!
# Trees

The tokens of a text in YAML stand for a tree. A node may be given a name by an anchor, and an alias
stands for the node that bears a name at that point, which may be one that the alias is itself a
part of. So aliases stay in the tree, and `Source` has the named nodes beside the root.
-/

namespace OneHost.Yaml

/-- A tree with the nodes that aliases stand for, by number. -/
structure Source where
  root : Document
  named : List (Nat × Document) := []

/-- The state of a reader of tokens. -/
structure Builder where
  tokens : List Token
  shorthands : List (List Char × List Char) := []
  names : List (List Char × Nat) := []
  named : List (Nat × Document) := []

/-- A step of reading, unless the tokens are not in order. -/
abbrev Build := StateT Builder Option

namespace Build

/-- The next token. -/
def peek? : Build (Option Token) := do
  return (← get).tokens.head?

/-- Pass over the next token. -/
def skip : Build Unit :=
  modify fun builder => { builder with tokens := builder.tokens.drop 1 }

/-- Pass over the next token if it is a given one. -/
def accept (token : Token) : Build Bool := do
  if (← peek?) = some token then
    skip
    return true
  else return false

/-- Pass over a token that must be there. -/
def expect (token : Token) : Build Unit := do
  if ← accept token then return else failure

/-- Whether the next token is one of some. -/
def isNext (tokens : List Token) : Build Bool := do
  return (← peek?).any tokens.contains

/-- A node that is left out. -/
def empty : Document := .scalar none .plain ""

/-- The full form of a tag. -/
def resolveTag (handle suffix : List Char) : Build String := do
  if handle.isEmpty then return String.ofList suffix
  else
    match (← get).shorthands.lookup handle with
    | some start => return String.ofList (start ++ suffix)
    | none => failure

/-- Read the tag and the anchor in front of a node, in either order. -/
def properties : Build (Option (List Char) × Option String) := do
  let anchor : Build (Option (List Char)) := do
    match ← peek? with
    | some (.anchor name) =>
      skip
      return some name
    | _ => return none
  let tag : Build (Option String) := do
    match ← peek? with
    | some (.tag handle suffix) =>
      skip
      return some (← resolveTag handle suffix)
    | _ => return none
  match ← anchor with
  | some name => return (some name, ← tag)
  | none =>
    match ← tag with
    | some tag => return (← anchor, some tag)
    | none => return (none, none)

/-- Give the next number to a node that is about to be read. -/
def number (anchor : Option (List Char)) : Build (Option Nat) := do
  match anchor with
  | none => return none
  | some name =>
    let builder ← get
    let number := builder.names.length
    set { builder with names := (name, number) :: builder.names }
    return some number

/-- Keep a node under its number. -/
def keep (number : Option Nat) (document : Document) : Build Document := do
  match number with
  | none => return document
  | some number =>
    modify fun builder => { builder with named := (number, document) :: builder.named }
    return document

mutual

/-- Read a node. `inBlock` says whether lists and mappings may be laid out by indentation, `loose`
whether the items of a list may stand at the indentation of the mapping around it. The first
argument of this and the following bounds the number of steps. -/
def node : Nat → Bool → Bool → Build Document
  | 0, _, _ => failure
  | bound + 1, inBlock, loose => do
    match ← peek? with
    | some (.reference name) =>
      match (← get).names.lookup name with
      | none => failure
      | some number =>
        skip
        return .reference number
    | _ =>
      let (anchor, tag) ← properties
      let known := anchor.isSome || tag.isSome
      match ← peek? with
      | some .item =>
        if loose then
          let number ← number anchor
          keep number (.list tag (← looseItems bound))
        else if known then keep (← number anchor) (.scalar tag .plain "")
        else failure
      | some (.scalar style text) =>
        skip
        let tag := if tag = some "!" then none else tag
        keep (← number anchor) (.scalar tag style (String.ofList text))
      | some .flowList =>
        skip
        let number ← number anchor
        keep number (.list tag (← flowItems bound true))
      | some .flowMapping =>
        skip
        let number ← number anchor
        keep number (.mapping tag (← flowEntries bound true))
      | some .blockList =>
        if inBlock then
          skip
          let number ← number anchor
          keep number (.list tag (← blockItems bound))
        else if known then keep (← number anchor) (.scalar tag .plain "")
        else failure
      | some .blockMapping =>
        if inBlock then
          skip
          let number ← number anchor
          keep number (.mapping tag (← blockEntries bound))
        else if known then keep (← number anchor) (.scalar tag .plain "")
        else failure
      | _ => if known then keep (← number anchor) (.scalar tag .plain "") else failure

/-- Read a node unless one of some tokens comes first, which leaves it out. -/
def nodeUnless : Nat → List Token → Bool → Bool → Build Document
  | 0, _, _, _ => failure
  | bound + 1, tokens, inBlock, loose => do
    if ← isNext tokens then return empty else node bound inBlock loose

/-- Read the items of a list that is laid out by indentation, and its end. -/
def blockItems : Nat → Build (List Document)
  | 0 => failure
  | bound + 1 => do
    if ← accept .item then
      let document ← nodeUnless bound [.item, .blockEnd] true false
      return document :: (← blockItems bound)
    else
      expect .blockEnd
      return []

/-- Read the items of a list at the indentation of the mapping around it. -/
def looseItems : Nat → Build (List Document)
  | 0 => failure
  | bound + 1 => do
    if ← accept .item then
      let document ← nodeUnless bound [.item, .key, .value, .blockEnd] true false
      return document :: (← looseItems bound)
    else return []

/-- Read the entries of a mapping that is laid out by indentation, and its end. -/
def blockEntries : Nat → Build (List (Document × Document))
  | 0 => failure
  | bound + 1 => do
    if ← accept .key then
      let name ← nodeUnless bound [.key, .value, .blockEnd] true true
      let document ←
        if ← accept .value then nodeUnless bound [.key, .value, .blockEnd] true true
        else pure empty
      return (name, document) :: (← blockEntries bound)
    else
      expect .blockEnd
      return []

/-- Read the items of a list in brackets, and its end. An item may be a single entry of a
mapping. -/
def flowItems : Nat → Bool → Build (List Document)
  | 0, _ => failure
  | bound + 1, isFirst => do
    if ← accept .flowListEnd then return []
    else
      if !isFirst then expect .comma
      if ← accept .flowListEnd then return []
      else
        let document ←
          if ← accept .key then flowPair bound
          else node bound false false
        return document :: (← flowItems bound false)

/-- Read an entry of a mapping that is an item of a list in brackets. -/
def flowPair : Nat → Build Document
  | 0 => failure
  | bound + 1 => do
    let name ←
      if ← isNext [.value, .comma, .flowListEnd] then
        skip
        pure empty
      else node bound false false
    let document ←
      if ← accept .value then nodeUnless bound [.comma, .flowListEnd] false false
      else pure empty
    return .mapping none [(name, document)]

/-- Read the entries of a mapping in brackets, and its end. -/
def flowEntries : Nat → Bool → Build (List (Document × Document))
  | 0, _ => failure
  | bound + 1, isFirst => do
    if ← accept .flowMappingEnd then return []
    else
      if !isFirst then expect .comma
      if ← accept .key then
        let name ← nodeUnless bound [.value, .comma, .flowMappingEnd] false false
        let document ←
          if ← accept .value then nodeUnless bound [.comma, .flowMappingEnd] false false
          else pure empty
        return (name, document) :: (← flowEntries bound false)
      else if ← accept .flowMappingEnd then return []
      else
        let name ← node bound false false
        let document ←
          if ← accept .value then nodeUnless bound [.comma, .flowMappingEnd] false false
          else pure empty
        return (name, document) :: (← flowEntries bound false)

end

/-- The handles of tags that need no directive. -/
def standardShorthands : List (List Char × List Char) :=
  [(['!'], ['!']), (['!', '!'], "tag:yaml.org,2002:".toList)]

/-- Read the directives in front of a document: the version at most once, and each handle at most
once. -/
def directives : Nat → Bool → Build Unit
  | 0, _ => failure
  | bound + 1, isVersionKnown => do
    match ← peek? with
    | some (.version major minor) =>
      skip
      if isVersionKnown || major ≠ 1 || !(minor = 1 || minor = 2) then failure
      else directives bound true
    | some (.shorthand handle start) =>
      skip
      let builder ← get
      if (builder.shorthands.lookup handle).isSome then failure
      else
        set { builder with shorthands := (handle, start) :: builder.shorthands }
        directives bound isVersionKnown
    | _ =>
      modify fun builder =>
        { builder with shorthands := builder.shorthands ++ standardShorthands }

/-- Read a document that is the only one. Without directives, the mark of its beginning may be left
out; there may be any number of marks of its end. -/
def document (bound : Nat) : Build Document := do
  let isExplicit : Bool :=
    match ← peek? with
    | some (.version ..) | some (.shorthand ..) | some .documentStart => true
    | _ => false
  let builder ← get
  directives (builder.tokens.length + 1) false
  let root ←
    if isExplicit then
      expect .documentStart
      match ← peek? with
      | none | some (.version ..) | some (.shorthand ..) | some .documentStart
      | some .documentEnd => pure empty
      | _ => node bound true false
    else if builder.tokens.isEmpty then pure empty
    else node bound true false
  modify fun builder =>
    { builder with tokens := builder.tokens.dropWhile (· = .documentEnd) }
  if (← peek?).isSome then failure else return root

end Build

/-- Read a text that holds one document. -/
def read? (text : String) : Option Source := do
  let tokens ← tokens? text
  let (root, builder) ← (Build.document (4 * tokens.length + 8)).run { tokens }
  return { root, named := builder.named }

end OneHost.Yaml
