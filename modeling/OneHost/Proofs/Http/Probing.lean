import OneHost.Proofs.Http.Aiming

/-!
# Which requests can be made

Whether a host's probes and requests can be made is a question about two texts. The path has to be
one that a URI can hold, in front of its fragment, and the hostname has to be one that a header can
hold. The address has no part in it but for its length.
-/

namespace OneHost.Http

/-! ## Readable paths -/

namespace Resource

variable {text : List Char}

/-- A text that can be read as a resource: characters of a path, then perhaps a question mark and
characters of a query, then perhaps a fragment, which may be anything. -/
def Readable (text : List Char) : Prop :=
  ∃ path query fragment : List Char, text = path ++ query ++ fragment ∧
    (∀ c ∈ path, isPathChar c = true) ∧
    (query = [] ∨ ∃ rest, query = '?' :: rest ∧ ∀ c ∈ rest, isQueryChar c = true) ∧
    (fragment = [] ∨ ∃ rest, fragment = '#' :: rest)

theorem Readable.of_parse {resource : Resource} (isRead : parse text = .ok resource) :
    Readable text := by
  rcases parse_eq_ok_iff.mp isRead with ⟨isWritten, writable⟩
  simp only [isWritable, Bool.and_eq_true, List.all_eq_true] at writable
  refine ⟨resource.path.toList, resource.queryText.toList, text.dropWhile (· ≠ '#'), ?_, writable.1,
    ?_, ?_⟩
  · calc text
        = text.takeWhile (· ≠ '#') ++ text.dropWhile (· ≠ '#') :=
          List.takeWhile_append_dropWhile.symm
      _ = resource.written ++ text.dropWhile (· ≠ '#') := congrArg (· ++ _) isWritten
  · cases hasQuery : resource.query with
    | none =>
      left
      simp [queryText, hasQuery]
    | some query =>
      right
      refine ⟨query.toList, by simp [queryText, hasQuery], ?_⟩
      simpa [hasQuery] using writable.2
  · cases behind : text.dropWhile (· ≠ '#') with
    | nil => exact .inl rfl
    | cons c rest =>
      right
      have ends := List.head?_dropWhile_not (· ≠ '#') text
      rw [behind] at ends
      refine ⟨rest, ?_⟩
      have isSharp : c = '#' := by simpa using ends
      rw [isSharp]

theorem Readable.exists_parse (readable : Readable text) :
    ∃ resource, parse text = .ok resource := by
  rcases readable with ⟨path, query, fragment, rfl, pathChars, isQuery, isFragment⟩
  have resource : ∃ resource : Resource, resource.written = path ++ query ∧
      resource.isWritable = true := by
    rcases isQuery with rfl | ⟨rest, rfl, queryChars⟩
    · refine ⟨⟨String.ofList path, none⟩, by simp [written, queryText], ?_⟩
      simpa [isWritable] using pathChars
    · refine ⟨⟨String.ofList path, some (String.ofList rest)⟩, by simp [written, queryText], ?_⟩
      simpa [isWritable] using ⟨pathChars, queryChars⟩
  rcases resource with ⟨resource, isWritten, writable⟩
  refine ⟨resource, parse_eq_ok_iff.mpr ⟨?_, writable⟩⟩
  have noSharp : ∀ c ∈ path ++ query, decide (c ≠ '#') = true := by
    intro c inText
    rw [← isWritten] at inText
    apply decide_eq_true
    rintro rfl
    exact sharp_notMem_written writable inText
  rw [withoutFragment, List.takeWhile_append_of_pos noSharp, isWritten]
  rcases isFragment with rfl | ⟨rest, rfl⟩
  · simp
  · simp

theorem exists_parse_iff : (∃ resource, parse text = .ok resource) ↔ Readable text := by
  constructor
  · rintro ⟨resource, isRead⟩
    exact .of_parse isRead
  · exact Readable.exists_parse

/-- A slash in front makes no difference. -/
theorem readable_cons_slash : Readable ('/' :: text) ↔ Readable text := by
  constructor
  · rintro ⟨path, query, fragment, isText, pathChars, isQuery, isFragment⟩
    cases path with
    | nil =>
      rcases isQuery with rfl | ⟨_, rfl, _⟩
      · rcases isFragment with rfl | ⟨_, rfl⟩ <;> simp at isText
      · simp at isText
    | cons c path =>
      have rest := (List.cons.inj isText).2
      exact ⟨path, query, fragment, rest,
        fun c inPath => pathChars c (List.mem_cons_of_mem _ inPath), isQuery, isFragment⟩
  · rintro ⟨path, query, fragment, rfl, pathChars, isQuery, isFragment⟩
    have slash : isPathChar '/' = true := by decide
    exact ⟨'/' :: path, query, fragment, rfl, List.forall_mem_cons.mpr ⟨slash, pathChars⟩, isQuery,
      isFragment⟩

end Resource

/-! ## Values of headers -/

/-- The characters that can stand in a header's value: all but the control characters of ASCII, of
which only the tab can. -/
def isHeaderChar (c : Char) : Bool :=
  (' ' ≤ c && c ≠ '\x7f') || c = '\t'

/-- ASCII is checked code by code; beyond it, every character and every byte may stand. -/
theorem isHeaderValue_utf8EncodeChar (c : Char) :
    isHeaderValue (String.utf8EncodeChar c) = isHeaderChar c := by
  by_cases isAscii : c.toNat < 0x80
  · have each : ∀ code < 0x80,
        isHeaderValue [UInt8.ofNat (Char.ofNat code).toNat] = isHeaderChar (Char.ofNat code) := by
      decide
    rw [Text.utf8EncodeChar_of_ascii isAscii]
    exact Text.forall_ascii (fun c => isHeaderValue [UInt8.ofNat c.toNat] = isHeaderChar c) each c
      isAscii
  · have foreign : 0x80 ≤ c.toNat := Nat.not_lt.mp isAscii
    have character : isHeaderChar c = true := by
      have visible : ' ' ≤ c := Nat.le_trans (by decide) foreign
      have notDelete : c ≠ '\x7f' := by
        rintro rfl
        exact absurd foreign (by decide)
      simp [isHeaderChar, visible, notDelete]
    rw [character, isHeaderValue, List.all_eq_true]
    intro byte among
    have high := Text.le_of_mem_utf8EncodeChar foreign among
    have visible : 32 ≤ byte := UInt8.le_trans (by decide) high
    have notDelete : byte ≠ 127 := by
      rintro rfl
      exact absurd high (by decide)
    simp [isHeaderByte, visible, notDelete]

theorem isHeaderValue_encode (text : String) :
    isHeaderValue (Text.encode text) = text.toList.all isHeaderChar := by
  rw [Text.encode_eq_flatMap, isHeaderValue, List.all_flatMap]
  exact congrArg text.toList.all (funext isHeaderValue_utf8EncodeChar)

theorem exists_headerValue_iff {value : String} :
    (∃ bytes, headerValue value = .ok bytes) ↔ ∀ c ∈ value.toList, isHeaderChar c = true := by
  rw [← List.all_eq_true, ← isHeaderValue_encode]
  by_cases isValue : isHeaderValue (Text.encode value) = true
  · rw [headerValue, if_pos isValue]
    exact iff_of_true ⟨_, rfl⟩ isValue
  · rw [headerValue, if_neg isValue]
    exact iff_of_false (by simp) isValue

/-! ## Requests of a host -/

namespace Target

variable {target : Target} {ip : Ip}

/-- The port adds only digits and a colon to the hostname. -/
theorem exists_hostHeader_iff :
    (∃ host, headerValue target.hostHeader = .ok host) ↔
      ∀ c ∈ target.hostname.toList, isHeaderChar c = true := by
  rw [exists_headerValue_iff, hostHeader]
  split
  · rfl
  · have digits : (Text.decimal target.port.toNat).toList.all isHeaderChar = true := by
      have alphanum := isAlphanum_decimal target.port.toNat
      rw [List.all_eq_true] at alphanum ⊢
      intro c inText
      have ascii := Text.toNat_lt_of_isAlphanum (alphanum c inText)
      have each : ∀ code < 0x80, (Char.ofNat code).isAlphanum = true →
          isHeaderChar (Char.ofNat code) = true := by decide
      exact Text.forall_ascii (fun c => c.isAlphanum = true → isHeaderChar c = true) each c ascii
        (alphanum c inText)
    have colon : ":".toList.all isHeaderChar = true := by decide
    simp only [← List.all_eq_true, String.toList_append, List.all_append, digits, colon,
      Bool.and_true]

theorem readable_rooted {path : String} :
    Resource.Readable (rooted path).toList ↔ Resource.Readable path.toList := by
  unfold rooted
  split
  · rfl
  · rw [String.toList_append]
    exact Resource.readable_cons_slash

theorem exists_uriFor_iff {path : String} :
    (∃ uri, target.uriFor ip path = .ok uri) ↔
      Resource.Readable path.toList ∧
        (target.uriText ip path).utf8ByteSize ≤ Uri.maxLength := by
  rw [← readable_rooted, ← Resource.exists_parse_iff]
  constructor
  · rintro ⟨uri, hasUri⟩
    rcases uriFor_eq_ok_iff.mp hasUri with ⟨short, resource, isRead, _⟩
    exact ⟨⟨resource, isRead⟩, short⟩
  · rintro ⟨⟨resource, isRead⟩, short⟩
    exact ⟨_, uriFor_eq_ok_iff.mpr ⟨short, resource, isRead, rfl⟩⟩

/-- A probe of a path can be made at an address just when the path is one of a URI that is not too
long and the hostname can stand in a header. -/
theorem exists_healthCheck_iff {path : String} :
    (∃ request, target.healthCheck ip path = .ok request) ↔
      Resource.Readable path.toList ∧
        (target.uriText ip path).utf8ByteSize ≤ Uri.maxLength ∧
          ∀ c ∈ target.hostname.toList, isHeaderChar c = true := by
  rw [← and_assoc, ← @exists_uriFor_iff target ip, ← exists_hostHeader_iff]
  unfold healthCheck
  cases target.uriFor ip path with
  | error error => simp [Bind.bind, Except.bind]
  | ok uri =>
    cases headerValue target.hostHeader with
    | error error => simp [Bind.bind, Except.bind]
    | ok host => simp [Bind.bind, Except.bind, pure, Except.pure]

/-- A request for the root is short at every address. -/
theorem exists_uriFor_root : ∃ uri, target.uriFor ip "/" = .ok uri := by
  apply exists_uriFor_iff.mpr
  constructor
  · have slash : ∀ c ∈ ['/'], Resource.isPathChar c = true :=
      List.forall_mem_singleton.mpr (by decide)
    exact ⟨['/'], [], [], rfl, slash, .inl rfl, .inl rfl⟩
  · have address := (target.socketAddress ip).utf8ByteSize_text
    have scheme : (target.protocol.scheme ++ "://").utf8ByteSize ≤ 8 := by
      cases target.protocol <;> decide +kernel
    have path : (rooted "/").utf8ByteSize = 1 := by decide +kernel
    rw [uriText, String.utf8ByteSize_append, String.utf8ByteSize_append, path, Uri.maxLength]
    omega

/-- Unless the hostname cannot stand in a header, some request can be aimed at every address. -/
theorem exists_retarget_iff :
    (∃ request aimed, target.retarget ip request = .ok aimed) ↔
      ∀ c ∈ target.hostname.toList, isHeaderChar c = true := by
  rw [← exists_hostHeader_iff]
  constructor
  · rintro ⟨request, aimed, isAimed⟩
    unfold retarget at isAimed
    cases hasUri : target.uriFor ip request.uri.resourceText with
    | error error =>
      rw [hasUri] at isAimed
      contradiction
    | ok uri =>
      rw [hasUri] at isAimed
      cases hasHost : headerValue target.hostHeader with
      | error error =>
        rw [hasHost] at isAimed
        contradiction
      | ok host => exact ⟨host, rfl⟩
  · rintro ⟨host, hasHost⟩
    rcases @exists_uriFor_root target ip with ⟨uri, hasUri⟩
    refine ⟨{ method := "GET", uri := .origin ⟨"/", none⟩ }, ?_⟩
    have root : (Uri.origin ⟨"/", none⟩).resourceText = "/" := by decide
    rw [retarget, root, hasUri, hasHost]
    exact ⟨_, rfl⟩

end Target

end OneHost.Http
