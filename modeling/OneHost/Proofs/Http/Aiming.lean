import OneHost.Http.Target
import OneHost.Proofs.Address.Authority
import OneHost.Proofs.Http.Fields
import OneHost.Proofs.Http.Resources

/-!
# What is left of a request that has been aimed

The URI of an aimed request is put together from texts and read again. The text of an address ends
where a path begins, so scheme, address and resource come out of the reading as they went in.
-/

namespace OneHost.Http

variable {target : Target} {ip : Ip} {request aimed : Request} {resource : Resource}

/-! ## Reading an absolute URI -/

/-- Both schemes are known by name, so nothing else is looked at. -/
theorem Uri.scheme?_scheme (protocol : Protocol) (rest : List Char) :
    scheme? ((protocol.scheme ++ "://").toList ++ rest) = .ok (some (protocol.scheme, rest)) := by
  cases protocol <;> rfl

theorem isEnd_of_isAddressChar {c : Char} (ofAddress : isAddressChar c = true) :
    Authority.isEnd c = false := by
  apply Bool.eq_false_iff.mpr
  intro ends
  rcases Authority.isEnd_iff.mp ends with rfl | rfl | rfl <;> exact absurd ofAddress (by decide)

/-- The address is followed by a slash, which is the first character that ends an authority. -/
theorem takeWhile_authority (socket : SocketAddress) (rest : List Char) :
    (socket.text.toList ++ '/' :: rest).takeWhile (!Authority.isEnd ·) = socket.text.toList := by
  have inside := List.all_eq_true.mp socket.isAddressChar_text
  rw [List.takeWhile_append_of_pos, List.takeWhile_cons_of_neg, List.append_nil]
  · decide
  · intro c inText
    rw [isEnd_of_isAddressChar (inside c inText)]
    rfl

/-- An address behind a scheme is always an authority, so all that can be wrong is the path. -/
theorem Uri.parseAbsolute_address (scheme : String) (socket : SocketAddress) (rest : List Char) :
    parseAbsolute scheme (socket.text.toList ++ '/' :: rest) =
      (Resource.parse ('/' :: rest)).map (.absolute scheme socket.text) := by
  have occupied : (socket.text.toList ++ '/' :: rest).isEmpty = false := by simp
  have named : socket.text.toList.isEmpty = false :=
    List.isEmpty_eq_false_iff.mpr socket.toList_text_ne_nil
  simp only [parseAbsolute, occupied, Bool.false_eq_true, if_false, takeWhile_authority,
    socket.check_text, named, List.drop_left, String.ofList_toList]
  cases Resource.parse ('/' :: rest) <;> rfl

/-- What comes of the reading of a URI that has been put together. -/
theorem Uri.parse_address (protocol : Protocol) (socket : SocketAddress) {path : String}
    {rest : List Char} (isPath : path.toList = '/' :: rest) :
    parse (protocol.scheme ++ "://" ++ socket.text ++ path) =
      if maxLength < (protocol.scheme ++ "://" ++ socket.text ++ path).utf8ByteSize then
        .error .tooLong
      else (Resource.parse path.toList).map (.absolute protocol.scheme socket.text) := by
  have isText : (protocol.scheme ++ "://" ++ socket.text ++ path).toList =
      (protocol.scheme ++ "://").toList ++ (socket.text.toList ++ '/' :: rest) := by
    rw [String.toList_append, String.toList_append, isPath, List.append_assoc]
  have begins : ∃ more, (protocol.scheme ++ "://").toList = 'h' :: more := by
    cases protocol <;> exact ⟨_, rfl⟩
  rcases begins with ⟨more, begins⟩
  have scheme := scheme?_scheme protocol (socket.text.toList ++ '/' :: rest)
  unfold parse
  split
  · rfl
  · rw [isText]
    rw [begins, List.cons_append] at scheme ⊢
    split
    · contradiction
    · rename_i star
      exact absurd (List.cons.inj star).1 (by decide)
    · rename_i slash
      exact absurd (List.cons.inj slash).1 (by decide)
    · rw [scheme, isPath]
      exact parseAbsolute_address ..

theorem requestUri_eq_ok_iff {text : String} {uri : Uri} :
    requestUri text = .ok uri ↔ Uri.parse text = .ok uri := by
  unfold requestUri
  cases Uri.parse text <;> simp

theorem eq_encode_of_headerValue {value : String} {bytes : Bytes}
    (hasValue : headerValue value = .ok bytes) : bytes = Text.encode value := by
  by_cases isValue : isHeaderValue (Text.encode value) = true
  · rw [headerValue, if_pos isValue] at hasValue
    cases hasValue
    rfl
  · rw [headerValue, if_neg isValue] at hasValue
    contradiction

namespace Target

theorem exists_rooted (path : String) : ∃ rest, (rooted path).toList = '/' :: rest := by
  unfold rooted
  cases isPath : path.toList with
  | nil => exact ⟨[], by simp [isPath]⟩
  | cons c rest =>
    by_cases slash : c = '/'
    · exact ⟨rest, by simp [isPath, slash]⟩
    · exact ⟨c :: rest, by simp [isPath, slash]⟩

/-- A path that begins at the root has its slash. -/
theorem rooted_text (isRooted : resource.IsRooted) : rooted resource.text = resource.text := by
  obtain ⟨rest, isText⟩ := isRooted.exists_text
  rw [rooted, if_pos (by rw [isText]; rfl)]

/-- The path alone is shorter than the URI of which it is a part. -/
theorem size_rooted_le (target : Target) (ip : Ip) (path : String) :
    (rooted path).utf8ByteSize ≤ (target.uriText ip path).utf8ByteSize := by
  rw [uriText, String.utf8ByteSize_append]
  exact Nat.le_add_left ..

/-- The URI of a path at an address consists of the scheme, the address and what is read from the
path with a slash in front. There is one unless it would be too long or the path cannot be read. -/
theorem uriFor_eq_ok_iff {path : String} {uri : Uri} :
    target.uriFor ip path = .ok uri ↔
      (target.uriText ip path).utf8ByteSize ≤ Uri.maxLength ∧
        ∃ resource, Resource.parse (rooted path).toList = .ok resource ∧
          uri = .absolute target.protocol.scheme (target.socketAddress ip).text resource := by
  rcases exists_rooted path with ⟨rest, isPath⟩
  rw [uriFor, requestUri_eq_ok_iff, uriText, Uri.parse_address _ _ isPath]
  split
  · rename_i long
    exact iff_of_false (by simp) fun parts => Nat.not_le.mpr long parts.1
  · rename_i short
    cases Resource.parse (rooted path).toList with
    | error error => simp [Except.map]
    | ok resource =>
      constructor
      · intro hasUri
        cases hasUri
        exact ⟨Nat.not_lt.mp short, resource, rfl, rfl⟩
      · rintro ⟨_, other, same, rfl⟩
        cases same
        rfl

theorem uriFor_eq_ok {path : String} {uri : Uri} (hasUri : target.uriFor ip path = .ok uri) :
    ∃ resource, Resource.parse (rooted path).toList = .ok resource ∧ resource.IsRooted ∧
      resource.text.utf8ByteSize ≤ Uri.maxLength ∧
      uri = .absolute target.protocol.scheme (target.socketAddress ip).text resource := by
  rcases exists_rooted path with ⟨rest, isPath⟩
  rcases uriFor_eq_ok_iff.mp hasUri with ⟨short, resource, isRead, rfl⟩
  have isRooted : resource.IsRooted := Resource.isRooted_of_parse (isPath ▸ isRead)
  refine ⟨resource, isRead, isRooted, ?_, rfl⟩
  rw [isRooted.text_eq]
  calc (resource.path ++ resource.queryText).utf8ByteSize
      ≤ (rooted path).utf8ByteSize := Resource.size_le_of_parse isRead
    _ ≤ (target.uriText ip path).utf8ByteSize := size_rooted_le target ip path
    _ ≤ Uri.maxLength := short

/-- What an aimed request consists of: the parts that it has from the request, and a resource from the
root that is short enough to be a URI by itself. -/
theorem retarget_eq_ok (isAimed : target.retarget ip request = .ok aimed) :
    ∃ resource, Resource.parse (rooted request.uri.resourceText).toList = .ok resource ∧
      resource.IsRooted ∧ resource.text.utf8ByteSize ≤ Uri.maxLength ∧
      aimed = { request with
        uri := .absolute target.protocol.scheme (target.socketAddress ip).text resource
        headers := request.headers.insert "host" (Text.encode target.hostHeader) } := by
  unfold retarget at isAimed
  cases hasUri : target.uriFor ip request.uri.resourceText with
  | error error =>
    rw [hasUri] at isAimed
    contradiction
  | ok uri =>
    obtain ⟨resource, isRead, isRooted, short, rfl⟩ := uriFor_eq_ok hasUri
    rw [hasUri] at isAimed
    cases hasHost : headerValue target.hostHeader with
    | error error =>
      rw [hasHost] at isAimed
      cases isAimed
    | ok host =>
      obtain rfl := eq_encode_of_headerValue hasHost
      rw [hasHost] at isAimed
      cases isAimed
      exact ⟨resource, isRead, isRooted, short, rfl⟩

/-- An aimed request names scheme, address and resource in its URI, has one field for the host, and is
otherwise the request that it was made from. Its form for the first line of an exchange, which it
always has, names the resource alone. -/
theorem retarget_form (isAimed : target.retarget ip request = .ok aimed) :
    ∃ resource : Resource, resource.text.toList.head? = some '/' ∧
      aimed.uri.text = target.protocol.scheme ++ "://" ++ (target.socketAddress ip).text ++
        resource.text ∧
      aimed = { request with uri := aimed.uri, headers := aimed.headers } ∧
      aimed.headers.toList.filter (·.1 ≠ "host") =
        request.headers.toList.filter (·.1 ≠ "host") ∧
      aimed.headers.toList.filter (·.1 = "host") = [("host", Text.encode target.hostHeader)] ∧
      aimed.originForm = .ok { aimed with uri := .origin resource } ∧
      (Uri.origin resource).text = resource.text := by
  obtain ⟨resource, isRead, isRooted, short, rfl⟩ := retarget_eq_ok isAimed
  have writable := (Resource.parse_eq_ok_iff.mp isRead).2
  have readAgain : requestUri resource.text = .ok (.origin resource) :=
    requestUri_eq_ok_iff.mpr (Uri.parse_text isRooted writable short)
  have hasForm (aimed : Request) (named : aimed.uri.resource? = some resource) :
      aimed.originForm = .ok { aimed with uri := .origin resource } := by
    rw [Request.originForm, Uri.resourceText, named]
    simp only [readAgain]
    rfl
  obtain ⟨rest, begins⟩ := isRooted.exists_text
  refine ⟨resource, by rw [begins]; rfl, Uri.text_absolute isRooted .., rfl, ?_, ?_, hasForm _ rfl,
    Uri.text_origin isRooted⟩
  · exact Headers.others_update request.headers "host" _
  · exact Headers.own_insert request.headers "host" _

/-! ## The resource that stays -/

/-- A slash is put in front of a bare query only, unless the path does not begin at the root. -/
theorem toList_rooted_text (plain : resource.path = "" ∨ resource.IsRooted) :
    (rooted resource.text).toList = (Resource.mk resource.fullPath resource.query).written := by
  cases plain with
  | inl empty =>
    cases hasQuery : resource.query <;>
      simp [rooted, Resource.text, Resource.fullPath, Resource.written, Resource.queryText, empty,
        hasQuery]
  | inr isRooted =>
    rw [rooted_text isRooted, isRooted.toList_text, isRooted.fullPath_eq]

/-- The path and the query of a request that names a resource are kept just when its path begins at
the root, where an empty path means the root. -/
theorem retarget_keeps_iff_isRooted (isAimed : target.retarget ip request = .ok aimed)
    (names : request.uri.resource? = some resource) (writable : resource.isWritable = true) :
    (aimed.uri.path = request.uri.path ∧ aimed.uri.query = request.uri.query) ↔
      resource.path = "" ∨ resource.IsRooted := by
  obtain ⟨kept, isRead, keptRooted, _, rfl⟩ := retarget_eq_ok isAimed
  have ownText : request.uri.resourceText = resource.text := by rw [Uri.resourceText, names]
  have ownQuery : request.uri.query = resource.query := by rw [Uri.query, names]; rfl
  rw [ownText] at isRead
  rw [Uri.path_of_resource? names, ownQuery]
  change (kept.fullPath = resource.fullPath ∧ kept.query = resource.query) ↔ _
  constructor
  · intro same
    by_cases empty : resource.path = ""
    · left
      exact empty
    · right
      have ownPath : resource.fullPath = resource.path := if_neg empty
      rw [Resource.IsRooted, ← ownPath, ← same.1, keptRooted.fullPath_eq]
      exact keptRooted
  · intro plain
    rw [toList_rooted_text plain,
      Resource.parse_written (Resource.isWritable_fullPath writable)] at isRead
    cases isRead
    exact ⟨keptRooted.fullPath_eq, rfl⟩

/-- An aimed request has the path and the query of the request that it was made from, for every form of
URI but one: the asterisk, which names no resource in particular. -/
theorem retarget_keeps_resource_iff {text : String}
    (isRead : Uri.parse text = .ok request.uri) (names : request.uri.resource? ≠ none)
    (isAimed : target.retarget ip request = .ok aimed) :
    (aimed.uri.path = request.uri.path ∧ aimed.uri.query = request.uri.query) ↔
      request.uri ≠ .origin ⟨"*", none⟩ := by
  obtain ⟨resource, names⟩ := Option.ne_none_iff_exists'.mp names
  obtain ⟨writable, kind⟩ := Uri.resource_of_parse isRead names
  rw [retarget_keeps_iff_isRooted isAimed names writable]
  constructor
  · intro plain asterisk
    rw [asterisk] at names
    cases names
    exact absurd plain (by decide)
  · exact kind.resolve_left

/-- A host at a port of its own. -/
def withPort : Target := ⟨.https, "api.example", 8443⟩

/-- A request for a bare query behind another authority, with two values for the host. -/
def bareQuery : Request where
  method := "GET"
  uri := .absolute "http" "elsewhere" ⟨"", some "limit=5"⟩
  headers := ((Headers.empty.append "host" (Text.encode "one")).append "accept"
    (Text.encode "text/plain")).append "host" (Text.encode "two")

theorem exists_retarget_bareQuery :
    ∃ aimed, withPort.retarget (.v4 ⟨10, 0, 0, 1⟩) bareQuery = .ok aimed := by
  have succeeds : (withPort.retarget (.v4 ⟨10, 0, 0, 1⟩) bareQuery).isOk = true := by decide +kernel
  cases isAimed : withPort.retarget (.v4 ⟨10, 0, 0, 1⟩) bareQuery with
  | error error =>
    rw [isAimed] at succeeds
    exact absurd succeeds Bool.false_ne_true
  | ok aimed => exact ⟨aimed, rfl⟩

/-- The query is kept, and the empty path is the root. -/
theorem retarget_keeps_resource_iff_bareQuery :
    ∃ aimed, withPort.retarget (.v4 ⟨10, 0, 0, 1⟩) bareQuery = .ok aimed ∧
      aimed.uri.path = "/" ∧ aimed.uri.query = some "limit=5" := by
  obtain ⟨aimed, isAimed⟩ := exists_retarget_bareQuery
  have isRead : Uri.parse "http://elsewhere?limit=5" = .ok bareQuery.uri := by decide +kernel
  have keeps := (retarget_keeps_resource_iff isRead (by decide) isAimed).mpr (by decide)
  exact ⟨aimed, isAimed, keeps.1, keeps.2⟩

/-- The asterisk is a URI, and the request that is made of it asks for something else. -/
theorem retarget_changes_asterisk :
    Uri.parse "*" = .ok (.origin ⟨"*", none⟩) ∧ (Uri.origin ⟨"*", none⟩).path = "*" ∧
      (withPort.retarget (.v4 ⟨10, 0, 0, 1⟩)
        { method := "OPTIONS", uri := .origin ⟨"*", none⟩ }).map (·.uri.path) = .ok "/*" := by
  decide +kernel

end Target

end OneHost.Http
