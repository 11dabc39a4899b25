import OneHost.Text.Utf8

/-!
# Header fields

A name occurs once, at the place where it was first added, with all of its values in the order in
which they were added. Names are kept in lower case.
-/

namespace OneHost.Http

/-- The characters of a token: methods and header names. -/
def isTokenChar (c : Char) : Bool :=
  c.isAlphanum || "!#$%&\x27*+-.^_\x60|~".toList.contains c

/-- Whether a text is a token. -/
def isToken (text : String) : Bool :=
  !text.isEmpty && text.toList.all isTokenChar

/-- The bytes that may stand in a header's value: visible ones, the space and the tab, and all above
ASCII. -/
def isHeaderByte (byte : UInt8) : Bool :=
  (32 ≤ byte && byte ≠ 127) || byte = 9

/-- Whether some bytes can be the value of a header. -/
def isHeaderValue (value : Bytes) : Bool :=
  value.all isHeaderByte

/-- Header fields: names in lower case, each with its values. -/
structure Headers where
  entries : List (String × List Bytes)
  distinct : (entries.map Prod.fst).Nodup
  deriving DecidableEq

namespace Headers

/-- No header fields. -/
def empty : Headers := ⟨[], List.nodup_nil⟩

instance : Inhabited Headers := ⟨empty⟩

/-- Change the values of a name. A name that is not there yet is added behind the others. -/
def updateEntry (name : String) (change : List Bytes → List Bytes) :
    List (String × List Bytes) → List (String × List Bytes)
  | [] => [(name, change [])]
  | (other, values) :: rest =>
    if other = name then (other, change values) :: rest
    else (other, values) :: updateEntry name change rest

theorem names_updateEntry (name : String) (change : List Bytes → List Bytes)
    (entries : List (String × List Bytes)) :
    (updateEntry name change entries).map Prod.fst =
      if name ∈ entries.map Prod.fst then entries.map Prod.fst
      else entries.map Prod.fst ++ [name] := by
  induction entries with
  | nil => rfl
  | cons entry rest ih =>
    by_cases same : entry.1 = name
    · simp [updateEntry, same]
    · simp only [updateEntry, same, if_false, List.map_cons, ih, List.mem_cons, Ne.symm same,
        false_or]
      split <;> rfl

theorem distinct_updateEntry (name : String) (change : List Bytes → List Bytes)
    {entries : List (String × List Bytes)} (distinct : (entries.map Prod.fst).Nodup) :
    ((updateEntry name change entries).map Prod.fst).Nodup := by
  rw [names_updateEntry]
  split
  · exact distinct
  · rename_i new
    simpa [List.nodup_append, distinct] using fun other values among same =>
      new (List.mem_map.mpr ⟨(other, values), among, same⟩)

/-- Change the values of a name, which keeps its place. -/
def update (headers : Headers) (name : String) (change : List Bytes → List Bytes) : Headers :=
  ⟨updateEntry name change headers.entries, distinct_updateEntry name change headers.distinct⟩

/-- Add a value behind the other values of its name. -/
def append (headers : Headers) (name : String) (value : Bytes) : Headers :=
  headers.update name (· ++ [value])

/-- Make a value the only one of its name, which keeps its place. -/
def insert (headers : Headers) (name : String) (value : Bytes) : Headers :=
  headers.update name fun _ => [value]

/-- Take a name away with all of its values. -/
def remove (headers : Headers) (name : String) : Headers :=
  ⟨headers.entries.filter (·.1 ≠ name), headers.distinct.sublist (List.filter_sublist.map _)⟩

/-- The values of a name. -/
def valuesOf (headers : Headers) (name : String) : List Bytes :=
  (headers.entries.lookup name).getD []

/-- The fields of a name, one for each value. -/
def fields (entry : String × List Bytes) : List (String × Bytes) :=
  entry.2.map fun value => (entry.1, value)

/-- The fields, one for each value. -/
def toList (headers : Headers) : List (String × Bytes) :=
  headers.entries.flatMap fields

end Headers

end OneHost.Http
