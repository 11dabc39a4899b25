import OneHost.Text.Base64
import OneHost.Text.Split

/-!
# Sections of a text file

Certificates and keys are kept in text files as sections. A section has a label, which its first and
its last line name, and between them the bytes of its content in base 64. Lines outside of sections
are for people to read. `encode` writes a section and `read?` reads all those of a file.
-/

namespace OneHost.Certificate.Pem

/-- A section: its label and the bytes that it holds. -/
structure Item where
  label : Bytes
  content : Bytes
  deriving DecidableEq

/-- The label of a certificate. -/
def certificateLabel : Bytes := Text.encode "CERTIFICATE"

/-- The labels of the sections that are understood. The content of others is not looked at. -/
def knownLabels : List Bytes :=
  ["CERTIFICATE", "PUBLIC KEY", "RSA PRIVATE KEY", "PRIVATE KEY", "EC PRIVATE KEY", "X509 CRL",
    "CERTIFICATE REQUEST", "ECHCONFIG"].map Text.encode

/-- What the first line of a section begins with. -/
def opening : Bytes := Text.encode "-----BEGIN "

/-- What the last line of a section with a label begins with. -/
def closing (label : Bytes) : Bytes :=
  Text.encode "-----END " ++ label ++ Text.encode "-----"

/-- The lines of a file. A line ends after a line feed or a carriage return, which belongs to it. -/
def lines : Bytes → List Bytes
  | [] => []
  | byte :: rest =>
    if byte = 10 || byte = 13 then [byte] :: lines rest
    else
      match lines rest with
      | [] => [[byte]]
      | line :: more => (byte :: line) :: more

/-- The label that a first line names: what stands before the five dashes at its end. -/
def labelOf? (line : Bytes) : Option Bytes :=
  let reversed := (line.drop opening.length).reverse.dropWhile fun byte =>
    byte = 10 || byte = 13 || byte = 32
  let label := reversed.dropWhile (· = 45)
  if reversed.length = label.length + 5 then some label.reverse else none

/-- The item of a finished section, if its label is known. -/
def item? (label text : Bytes) : Option (List Item) :=
  if knownLabels.contains label then
    (Text.Base64.decode? text).map fun content => [⟨label, content⟩]
  else some []

/-- Read some lines, given the section that they begin in. A file must not end within a section. A
new first line within a section only changes the label. -/
def readLines? (section? : Option (Bytes × Bytes)) : List Bytes → Option (List Item)
  | [] => if section?.isNone then some [] else none
  | line :: rest =>
    if opening.isPrefixOf line then do
      let label ← labelOf? line
      readLines? (some (label, (section?.map (·.2)).getD [])) rest
    else
      match section? with
      | none => readLines? none rest
      | some (label, text) =>
        if (closing label).isPrefixOf line then do
          let items ← item? label text
          return items ++ (← readLines? none rest)
        else readLines? (some (label, text ++ line)) rest

/-- The sections of a file, or nothing if they are not well-formed. -/
def read? (file : Bytes) : Option (List Item) :=
  readLines? none (lines file)

/-- The certificates that a file holds. -/
def certificates? (file : Bytes) : Option (List Bytes) :=
  (read? file).map fun items =>
    (items.filter (·.label == certificateLabel)).map (·.content)

/-- Cut a text into lines of at most `width` characters. -/
def wrap (width : Nat) (text : List Char) : List Char :=
  if text.isEmpty ∨ width = 0 then text
  else text.take width ++ '\n' :: wrap width (text.drop width)
termination_by text.length
decreasing_by
  cases text <;> simp_all
  omega

/-- The text of a section. -/
def encode (label : String) (content : Bytes) : String :=
  "-----BEGIN " ++ label ++ "-----\n" ++
    String.ofList (wrap 64 (Text.Base64.encode content)) ++ "-----END " ++ label ++ "-----\n"

end OneHost.Certificate.Pem
