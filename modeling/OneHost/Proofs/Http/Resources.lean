import Mathlib.Data.List.TakeWhile
import OneHost.Http.Uri

/-!
# Reading what has been written

A resource is read from a text by two cuts: a fragment is dropped, and the rest is cut into path and
query. Neither a question mark nor a number sign may stand in a path, nor a number sign in a query;
so whatever has been read is read again when it is written, and nothing but the fragment is lost.
-/

namespace OneHost.Http

namespace Resource

variable {resource : Resource} {text : List Char}

/-- The characters of a resource, with nothing in the place of an empty path. -/
def written (resource : Resource) : List Char :=
  resource.path.toList ++ resource.queryText.toList

/-- A resource whose path begins at the root. -/
def IsRooted (resource : Resource) : Prop :=
  resource.path.toList.head? = some '/'

instance (resource : Resource) : Decidable resource.IsRooted :=
  inferInstanceAs (Decidable (_ = _))

/-! ## Path and query -/

theorem notMem_path (writable : resource.isWritable = true) {mark : Char}
    (barred : isPathChar mark = false) : mark ∉ resource.path.toList := by
  intro inPath
  simp only [isWritable, Bool.and_eq_true, List.all_eq_true] at writable
  exact absurd (writable.1 mark inPath) (ne_true_of_eq_false barred)

/-- The root may always stand in the place of an empty path. -/
theorem isWritable_fullPath (writable : resource.isWritable = true) :
    (mk resource.fullPath resource.query).isWritable = true := by
  by_cases empty : resource.path = ""
  · simp only [isWritable, Bool.and_eq_true] at writable ⊢
    rw [fullPath, if_pos empty]
    exact ⟨by decide, writable.2⟩
  · rw [fullPath, if_neg empty]
    exact writable

theorem sharp_notMem_queryText (writable : resource.isWritable = true) :
    '#' ∉ resource.queryText.toList := by
  simp only [isWritable, Bool.and_eq_true, List.all_eq_true] at writable
  unfold queryText
  cases hasQuery : resource.query with
  | none => simp
  | some query =>
    rw [hasQuery] at writable
    intro inText
    have inQuery : '#' ∈ query.toList := by simpa using inText
    exact absurd (writable.2 '#' inQuery) (by decide)

theorem sharp_notMem_written (writable : resource.isWritable = true) : '#' ∉ resource.written := by
  intro inText
  cases List.mem_append.mp inText with
  | inl inPath => exact notMem_path writable (by decide) inPath
  | inr inQuery => exact sharp_notMem_queryText writable inQuery

/-- A cut at the first question mark loses nothing. -/
theorem written_ofChars (text : List Char) : (ofChars text).written = text := by
  unfold ofChars
  cases cut : Text.splitOnce? '?' text with
  | none => simp [written, queryText]
  | some parts =>
    obtain ⟨path, query⟩ := parts
    obtain ⟨whole, _⟩ := Text.splitOnce?_eq_some_iff.mp cut
    simp [written, queryText, whole]

/-- Only the cut at the first question mark leaves none in the path. -/
theorem ofChars_written (absent : '?' ∉ resource.path.toList) :
    ofChars resource.written = resource := by
  obtain ⟨path, query⟩ := resource
  cases query with
  | none =>
    have uncut : Text.splitOnce? '?' path.toList = none := Text.splitOnce?_eq_none_iff.mpr absent
    simp [ofChars, written, queryText, uncut]
  | some query =>
    have cut : Text.splitOnce? '?' (path.toList ++ '?' :: query.toList) =
      some (path.toList, query.toList) := Text.splitOnce?_eq_some_iff.mpr ⟨rfl, absent⟩
    simp [ofChars, written, queryText, cut]

/-! ## Reading -/

/-- What is read is what was written in front of the fragment. -/
theorem parse_eq_ok_iff :
    parse text = .ok resource ↔
      withoutFragment text = resource.written ∧ resource.isWritable = true := by
  constructor
  · intro parsed
    by_cases writable : (ofChars (withoutFragment text)).isWritable = true
    · rw [parse, if_pos writable] at parsed
      cases parsed
      exact ⟨(written_ofChars _).symm, writable⟩
    · rw [parse, if_neg writable] at parsed
      contradiction
  · intro isWritten
    rw [parse, isWritten.1, ofChars_written (notMem_path isWritten.2 (by decide)), if_pos isWritten.2]

theorem parse_written (writable : resource.isWritable = true) :
    parse resource.written = .ok resource := by
  apply parse_eq_ok_iff.mpr
  constructor
  · apply List.takeWhile_eq_self_iff.mpr
    intro c inText
    rw [decide_eq_true_eq]
    rintro rfl
    exact sharp_notMem_written writable inText
  · exact writable

/-- What is read from a text is no longer than the text. -/
theorem size_le_of_parse {text : String} (parsed : parse text.toList = .ok resource) :
    (resource.path ++ resource.queryText).utf8ByteSize ≤ text.utf8ByteSize := by
  have isWritten := (parse_eq_ok_iff.mp parsed).1
  obtain ⟨fragment, whole⟩ : ∃ fragment, text.toList = resource.written ++ fragment := by
    rw [← isWritten]
    exact ⟨_, List.takeWhile_append_dropWhile.symm⟩
  have parts : text = resource.path ++ resource.queryText ++ String.ofList fragment := by
    apply String.toList_injective
    rw [whole, String.toList_append, String.toList_append, String.toList_ofList]
    rfl
  calc (resource.path ++ resource.queryText).utf8ByteSize
      ≤ (resource.path ++ resource.queryText).utf8ByteSize +
          (String.ofList fragment).utf8ByteSize := Nat.le_add_right ..
    _ = text.utf8ByteSize := by simp only [parts, String.utf8ByteSize_append]

/-- A text that begins with a slash is read as a path from the root. -/
theorem isRooted_of_parse {rest : List Char} (parsed : parse ('/' :: rest) = .ok resource) :
    resource.IsRooted := by
  have isWritten := (parse_eq_ok_iff.mp parsed).1
  unfold IsRooted
  cases hasPath : resource.path.toList with
  | cons c path =>
    have first := congrArg List.head? isWritten
    simpa [withoutFragment, written, hasPath] using first.symm
  | nil =>
    cases hasQuery : resource.query <;>
      simp [withoutFragment, written, queryText, hasPath, hasQuery] at isWritten

/-! ## Resources with a path from the root -/

namespace IsRooted

theorem path_ne_empty (rooted : resource.IsRooted) : resource.path ≠ "" := by
  intro empty
  simp [IsRooted, empty] at rooted

/-- With a path from the root, nothing is left to be added. -/
theorem fullPath_eq (rooted : resource.IsRooted) : resource.fullPath = resource.path :=
  if_neg rooted.path_ne_empty

theorem text_eq (rooted : resource.IsRooted) :
    resource.text = resource.path ++ resource.queryText :=
  if_neg fun empty => rooted.path_ne_empty empty.1

theorem toList_text (rooted : resource.IsRooted) : resource.text.toList = resource.written := by
  rw [rooted.text_eq, String.toList_append]
  rfl

theorem exists_text (rooted : resource.IsRooted) :
    ∃ rest, resource.text.toList = '/' :: rest := by
  rw [rooted.toList_text]
  unfold IsRooted at rooted
  cases hasPath : resource.path.toList with
  | nil => simp [hasPath] at rooted
  | cons c path =>
    simp only [hasPath, List.head?_cons, Option.some.injEq] at rooted
    exact ⟨path ++ resource.queryText.toList, by simp [written, hasPath, rooted]⟩

end IsRooted

end Resource

variable {resource : Resource}

/-! ## URIs and their resources -/

/-- Nothing but a resource begins with a slash. -/
theorem Uri.parse_of_slash {text : String} {rest : List Char} (begins : text.toList = '/' :: rest)
    (short : text.utf8ByteSize ≤ maxLength) :
    parse text = (Resource.parse text.toList).map .origin := by
  rw [parse, if_neg (Nat.not_lt.mpr short), begins]
  cases isRead : Resource.parse ('/' :: rest) <;> simp only [isRead, Except.map]

/-- A resource from the root that is not too long is the whole of a URI. -/
theorem Uri.parse_text (rooted : resource.IsRooted)
    (writable : resource.isWritable = true) (short : resource.text.utf8ByteSize ≤ maxLength) :
    parse resource.text = .ok (.origin resource) := by
  obtain ⟨rest, begins⟩ := rooted.exists_text
  rw [parse_of_slash begins short, rooted.toList_text, Resource.parse_written writable]
  rfl

theorem Uri.path_of_resource? {uri : Uri} (names : uri.resource? = some resource) :
    uri.path = resource.fullPath := by
  cases uri with
  | origin _ => exact congrArg Resource.fullPath (Option.some.inj names)
  | server _ => contradiction
  | absolute _ _ _ => exact congrArg Resource.fullPath (Option.some.inj names)

theorem Uri.text_origin (rooted : resource.IsRooted) :
    (Uri.origin resource).text = resource.text := by
  rw [text, rooted.fullPath_eq, rooted.text_eq]

theorem Uri.text_absolute (rooted : resource.IsRooted) (scheme authority : String) :
    (Uri.absolute scheme authority resource).text =
      scheme ++ "://" ++ authority ++ resource.text := by
  simp only [text, rooted.fullPath_eq, rooted.text_eq, String.append_assoc]

/-! ## The resources of URIs -/

theorem Authority.isEnd_iff {c : Char} : isEnd c = true ↔ c = '/' ∨ c = '?' ∨ c = '#' := by
  simp only [isEnd, Bool.or_eq_true, decide_eq_true_eq, or_assoc]

/-- Of the characters that end an authority only the slash may stand in a path. -/
theorem Resource.path_of_ended {text : List Char}
    (ended : ∀ c, text.head? = some c → Authority.isEnd c = true)
    (isRead : parse text = .ok resource) : resource.path = "" ∨ resource.IsRooted := by
  obtain ⟨isWritten, writable⟩ := parse_eq_ok_iff.mp isRead
  cases hasPath : resource.path.toList with
  | nil =>
    left
    exact String.toList_injective hasPath
  | cons first path =>
    right
    have inPath : first ∈ resource.path.toList := hasPath ▸ List.mem_cons_self
    have begins : text.head? = some first := by
      cases text with
      | nil => simp [withoutFragment, written, hasPath] at isWritten
      | cons c rest =>
        have heads := congrArg List.head? isWritten
        by_cases sharp : c = '#'
        · simp [withoutFragment, written, hasPath, sharp] at heads
        · simpa [withoutFragment, written, hasPath, sharp] using heads
    rcases Authority.isEnd_iff.mp (ended first begins) with rfl | rfl | rfl
    · rw [IsRooted, hasPath]
      rfl
    · exact absurd inPath (notMem_path writable (by decide))
    · exact absurd inPath (notMem_path writable (by decide))

theorem Authority.isEnd_of_rest {rest : List Char} {c : Char}
    (begins : (rest.drop (rest.takeWhile (!isEnd ·)).length).head? = some c) :
    isEnd c = true := by
  have whole : rest.takeWhile (!isEnd ·) ++ rest.dropWhile (!isEnd ·) = rest :=
    List.takeWhile_append_dropWhile
  have behind : rest.drop (rest.takeWhile (!isEnd ·)).length = rest.dropWhile (!isEnd ·) :=
    calc rest.drop (rest.takeWhile (!isEnd ·)).length
        = (rest.takeWhile (!isEnd ·) ++ rest.dropWhile (!isEnd ·)).drop
            (rest.takeWhile (!isEnd ·)).length := by rw [whole]
      _ = rest.dropWhile (!isEnd ·) := List.drop_left
  have ends := List.head?_dropWhile_not (!isEnd ·) rest
  rw [← behind, begins] at ends
  simpa using ends

theorem Uri.resource_of_parseAbsolute {scheme : String} {rest : List Char} {uri : Uri}
    (isRead : parseAbsolute scheme rest = .ok uri) :
    ∃ authority resource, uri = .absolute scheme authority resource ∧
      resource.isWritable = true ∧ (resource.path = "" ∨ resource.IsRooted) := by
  unfold parseAbsolute at isRead
  split at isRead
  · contradiction
  · dsimp only at isRead
    split at isRead
    · contradiction
    · split at isRead
      · contradiction
      · split at isRead
        · contradiction
        · rename_i resource resourceRead
          cases isRead
          have writable := (Resource.parse_eq_ok_iff.mp resourceRead).2
          have plain := Resource.path_of_ended (fun c => Authority.isEnd_of_rest) resourceRead
          exact ⟨_, resource, rfl, writable, plain⟩

theorem Uri.resource?_of_parseAuthority {text : List Char} {uri : Uri}
    (isRead : parseAuthority text = .ok uri) : uri.resource? = none := by
  unfold parseAuthority at isRead
  dsimp only at isRead
  split at isRead
  · contradiction
  · split at isRead
    · cases isRead
      rfl
    · split at isRead <;> contradiction

/-- A URI that is read names a resource with a path from the root or with none at all, or else it is
the asterisk, which stands for no resource in particular. -/
theorem Uri.resource_of_parse {text : String} {uri : Uri} (isRead : parse text = .ok uri)
    (names : uri.resource? = some resource) :
    resource.isWritable = true ∧
      (uri = .origin ⟨"*", none⟩ ∨ resource.path = "" ∨ resource.IsRooted) := by
  unfold parse at isRead
  split at isRead
  · contradiction
  · split at isRead
    · contradiction
    · cases isRead
      cases names
      exact ⟨by decide, .inl rfl⟩
    · split at isRead
      · rename_i own resourceRead
        cases isRead
        cases names
        exact ⟨(Resource.parse_eq_ok_iff.mp resourceRead).2,
          .inr (.inr (Resource.isRooted_of_parse resourceRead))⟩
      · contradiction
    · split at isRead
      · contradiction
      · rw [resource?_of_parseAuthority isRead] at names
        contradiction
      · obtain ⟨authority, own, rfl, writable, plain⟩ := resource_of_parseAbsolute isRead
        cases names
        exact ⟨writable, .inr plain⟩

end OneHost.Http
