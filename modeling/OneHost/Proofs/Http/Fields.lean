import OneHost.Http.Headers

/-!
# Header fields after a change

The fields of a name are the values that are kept for it. A change of these values leaves every
other field as it is, in its order.
-/

namespace OneHost.Http.Headers

variable {name : String} {values : List Bytes} {entries : List (String × List Bytes)}

/-! ## The fields of one entry -/

theorem fst_of_mem_fields {entry : String × List Bytes} {field : String × Bytes}
    (among : field ∈ fields entry) : field.1 = entry.1 := by
  obtain ⟨value, _, rfl⟩ := List.mem_map.mp among
  rfl

theorem own_fields (name : String) (values : List Bytes) :
    (fields (name, values)).filter (·.1 = name) = fields (name, values) := by
  apply List.filter_eq_self.mpr
  intro field among
  exact decide_eq_true (fst_of_mem_fields among)

theorem own_fields_of_ne {other : String} (different : other ≠ name) (values : List Bytes) :
    (fields (other, values)).filter (·.1 = name) = [] := by
  apply List.filter_eq_nil_iff.mpr
  intro field among
  rw [fst_of_mem_fields among, decide_eq_true_eq]
  exact different

theorem others_fields (name : String) (values : List Bytes) :
    (fields (name, values)).filter (·.1 ≠ name) = [] := by
  apply List.filter_eq_nil_iff.mpr
  intro field among
  rw [fst_of_mem_fields among]
  simp

/-! ## A change of the values of a name -/

theorem others_updateEntry (name : String) (change : List Bytes → List Bytes)
    (entries : List (String × List Bytes)) :
    ((updateEntry name change entries).flatMap fields).filter (·.1 ≠ name) =
      (entries.flatMap fields).filter (·.1 ≠ name) := by
  induction entries with
  | nil => simpa [updateEntry] using others_fields name (change [])
  | cons entry rest ih =>
    obtain ⟨other, values⟩ := entry
    by_cases same : other = name
    · subst other
      simp only [updateEntry, if_true, List.flatMap_cons, List.filter_append, others_fields]
    · simp only [updateEntry, same, if_false, List.flatMap_cons, List.filter_append, ih]

theorem lookup_updateEntry (name : String) (change : List Bytes → List Bytes)
    (entries : List (String × List Bytes)) :
    (updateEntry name change entries).lookup name =
      some (change ((entries.lookup name).getD [])) := by
  induction entries with
  | nil => simp [updateEntry]
  | cons entry rest ih =>
    obtain ⟨other, values⟩ := entry
    by_cases same : other = name
    · simp [updateEntry, same]
    · have different : (name == other) = false := beq_false_of_ne (Ne.symm same)
      simp only [updateEntry, same, if_false, List.lookup_cons, different, ih]

theorem own_eq_nil_of_notMem (absent : name ∉ entries.map Prod.fst) :
    (entries.flatMap fields).filter (·.1 = name) = [] := by
  rw [List.filter_flatMap]
  apply List.flatMap_eq_nil_iff.mpr
  rintro ⟨other, values⟩ among
  apply own_fields_of_ne
  intro same
  exact absent (List.mem_map.mpr ⟨(other, values), among, same⟩)

theorem own_eq_of_distinct (distinct : (entries.map Prod.fst).Nodup) :
    (entries.flatMap fields).filter (·.1 = name) =
      fields (name, (entries.lookup name).getD []) := by
  induction entries with
  | nil => rfl
  | cons entry rest ih =>
    obtain ⟨other, values⟩ := entry
    obtain ⟨absent, distinct⟩ := List.nodup_cons.mp distinct
    rw [List.flatMap_cons, List.filter_append, List.lookup_cons]
    by_cases same : other = name
    · subst other
      simp only [own_fields, own_eq_nil_of_notMem absent, List.append_nil, beq_self_eq_true,
        Option.getD_some]
    · have different : (name == other) = false := beq_false_of_ne (Ne.symm same)
      simp only [own_fields_of_ne same values, ih distinct, List.nil_append, different]

/-- The fields of the other names stay. -/
theorem others_update (headers : Headers) (name : String) (change : List Bytes → List Bytes) :
    (headers.update name change).toList.filter (·.1 ≠ name) =
      headers.toList.filter (·.1 ≠ name) :=
  others_updateEntry name change headers.entries

theorem valuesOf_update (headers : Headers) (name : String) (change : List Bytes → List Bytes) :
    (headers.update name change).valuesOf name = change (headers.valuesOf name) := by
  rw [valuesOf, update, lookup_updateEntry]
  rfl

/-- The fields of a name are its values. -/
theorem own_eq (headers : Headers) (name : String) :
    headers.toList.filter (·.1 = name) = fields (name, headers.valuesOf name) :=
  own_eq_of_distinct headers.distinct

/-- Whatever the values of a name were, the one that is put in their place is its only field. -/
theorem own_insert (headers : Headers) (name : String) (value : Bytes) :
    (headers.insert name value).toList.filter (·.1 = name) = [(name, value)] := by
  rw [own_eq, insert, valuesOf_update]
  rfl

end OneHost.Http.Headers
