import OneHost.Text.Alphanumeric
import OneHost.Text.Lowercase
import OneHost.Text.Punycode
import OneHost.Text.Split

/-!
# Which certificate names cover a hostname

A certificate names hosts by templates. A `*` in a label of a template stands for any run of
characters within that label, never across a dot. A name and a template are compared in normal form:
in lower case, with encoded (`xn--`) labels decoded. A template counts only if it is a well-formed
name once its wildcards are filled in and if at least one label follows each wildcard.
-/

namespace OneHost.Hostname

open Text (split splitOnce? splitLast? join lowercase isAlphanumeric)

/-- The number of bytes of a text in UTF-8. -/
def byteLength (text : List Char) : Nat :=
  text.foldr (fun c length => c.utf8Size + length) 0

/-- The marker in front of an encoded label. -/
def encodedMarker : List Char := ['x', 'n', '-', '-']

/-- The normal form of a label: lower case, and decoded if it is an encoded label that decodes. -/
def normalizeLabel (label : List Char) : List Char :=
  let lower := lowercase label
  if encodedMarker.isPrefixOf lower then
    (Text.Punycode.decode? (lower.drop encodedMarker.length)).getD lower
  else lower

/-- The normal form of a name or template, label by label. -/
def normalize (name : List Char) : List Char :=
  join '.' ((split '.' name).map normalizeLabel)

/-- Whether the last wildcard has no label after it: no dot follows, or nothing follows the dot. -/
def hasIllegalWildcard (template : List Char) : Bool :=
  match splitLast? '*' template with
  | none => false
  | some (_, after) =>
    match splitOnce? '.' after with
    | none => true
    | some (_, beyond) => beyond.isEmpty

/-- The most bytes that a name may have. -/
def maxNameLength : Nat := 253

/-- The most bytes that a label may have. -/
def maxLabelLength : Nat := 63

/-- Letters and digits of any script, hyphen and underscore. -/
def isLabelChar (c : Char) : Bool :=
  isAlphanumeric c || c == '-' || c == '_'

/-- A label is neither empty nor too long, consists of label characters, and has no hyphen at either
end. -/
def isValidLabel (label : List Char) : Bool :=
  !label.isEmpty && byteLength label ≤ maxLabelLength && label.head? != some '-' &&
    label.getLast? != some '-' && label.all isLabelChar

/-- A name is neither empty nor too long, and all its labels are valid. -/
def isValidName (name : List Char) : Bool :=
  !name.isEmpty && byteLength name ≤ maxNameLength && (split '.' name).all isValidLabel

/-- The letter that stands in for a wildcard when the form of a template is checked. -/
def placeholder : Char := 'z'

/-- The template with its wildcards filled in. -/
def fillWildcards (template : List Char) : List Char :=
  template.map fun c => if c = '*' then placeholder else c

/-- Whether a label of a name fits a label of a template. The text around the first wildcard has to
fit without overlap; a later wildcard stands for itself. -/
def labelMatches (label template : List Char) : Bool :=
  match splitOnce? '*' template with
  | none => label == template
  | some (front, back) =>
    byteLength front + byteLength back ≤ byteLength label && front.isPrefixOf label &&
      back.isSuffixOf label

/-- Whether a normal name fits a normal template. -/
def matchesNormal (name template : List Char) : Bool :=
  if name.isEmpty || template.isEmpty || hasIllegalWildcard template then false
  else if !isValidName (fillWildcards template) then false
  else
    let labels := split '.' name
    let templates := split '.' template
    labels.length == templates.length &&
      (labels.zip templates).all fun (label, template) => labelMatches label template

/-- Whether the certificate name `template` covers the host `name`. -/
def isMatched (name template : String) : Bool :=
  matchesNormal (normalize name.toList) (normalize template.toList)

end OneHost.Hostname
