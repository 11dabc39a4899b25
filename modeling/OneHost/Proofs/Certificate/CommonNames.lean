import OneHost.Certificate.Encoding
import OneHost.Proofs.Trust.Acceptance

/-!
# Which common name speaks for a certificate

A certificate without domain names speaks for the hosts that its most specific common name covers.
But a common name of a kind of text that is not read, or one that is not well-formed, is passed over,
and then the one in front of it speaks in its place. `common_names_decide` says this of any two
certificates that end in the same common name.
-/

namespace OneHost.Certificate

open Hostname (isMatched)

variable {leaf : Leaf} {entries : List Attribute} {entry : Attribute} {hostname name : String}

/-! ## The last common name that can be read -/

/-- The common names of the subject, whether they can be read or not. -/
def Leaf.commonNameEntries (leaf : Leaf) : List Attribute :=
  leaf.subject.filter (·.kind == commonName)

/-- The text of the last of some attributes that can be read. -/
def IsLastRead (entries : List Attribute) (name : String) : Prop :=
  ∃ front entry back, entries = front ++ entry :: back ∧ entry.text? = some name ∧
    ∀ later ∈ back, later.text? = none

/-- A host is covered by the last of some attributes that can be read. -/
def Speaks (entries : List Attribute) (hostname : String) : Prop :=
  ∃ name, IsLastRead entries name ∧ isMatched hostname name = true

theorem Leaf.getLast?_commonNames :
    leaf.commonNames.getLast? = some name ↔ IsLastRead leaf.commonNameEntries name := by
  have ownNames : leaf.commonNames = leaf.commonNameEntries.filterMap Attribute.text? := rfl
  rw [ownNames, List.getLast?_filterMap, List.findSome?_eq_some_iff]
  constructor
  · rintro ⟨back, entry, front, reversed, isText, unread⟩
    refine ⟨front.reverse, entry, back.reverse, ?_, isText, ?_⟩
    · rw [← List.reverse_inj, reversed]
      simp
    · intro later among
      exact unread later (List.mem_reverse.mp among)
  · rintro ⟨front, entry, back, isWhole, isText, unread⟩
    refine ⟨back.reverse, entry, front.reverse, by simp [isWhole], isText, ?_⟩
    intro later among
    exact unread later (List.mem_reverse.mp among)

theorem isLastRead_concat :
    IsLastRead (entries ++ [entry]) name ↔
      entry.text? = some name ∨ entry.text? = none ∧ IsLastRead entries name := by
  constructor
  · rintro ⟨front, own, back, isWhole, isText, unread⟩
    rcases List.eq_nil_or_concat back with rfl | ⟨back, last, rfl⟩
    · obtain ⟨_, same⟩ := List.append_inj' isWhole rfl
      cases same
      left
      exact isText
    · rw [List.concat_eq_append, ← List.cons_append, ← List.append_assoc] at isWhole
      obtain ⟨rfl, same⟩ := List.append_inj' isWhole rfl
      cases same
      right
      refine ⟨unread entry (by simp), front, own, back, rfl, isText, ?_⟩
      intro later among
      exact unread later (by simp [among])
  · rintro (isText | ⟨isUnread, front, own, back, rfl, isText, unread⟩)
    · exact ⟨entries, entry, [], rfl, isText, by simp⟩
    · refine ⟨front, own, back ++ [entry], by simp, isText, ?_⟩
      intro later among
      rcases List.mem_append.mp among with before | isEntry
      · exact unread later before
      · rw [List.mem_singleton.mp isEntry]
        exact isUnread

/-! ## Certificates without domain names -/

/-- A certificate passes the check of a hostname. -/
def Accepts (bytes : Bytes) (hostname : String) : Prop :=
  ∃ identities, Identities.read? bytes = some identities ∧ identities.check hostname = .ok ()

theorem Leaf.check_eq_ok_iff (noDomain : ∀ name, .domain name ∉ leaf.altNames.getD []) :
    leaf.identities.check hostname = .ok () ↔ Speaks leaf.commonNameEntries hostname := by
  rw [Identities.check_eq_ok, covers_iff_names]
  constructor
  · intro names
    cases names with
    | byDomain listed _ => exact absurd listed (noDomain _)
    | byCommonName _ last matched => exact ⟨_, getLast?_commonNames.mp last, matched⟩
  · rintro ⟨name, last, matched⟩
    exact .byCommonName noDomain (getLast?_commonNames.mpr last) matched

theorem accepts_iff {bytes : Bytes} (isRead : Leaf.read? bytes = some leaf)
    (noDomain : ∀ name, .domain name ∉ leaf.altNames.getD []) :
    Accepts bytes hostname ↔ Speaks leaf.commonNameEntries hostname := by
  simp only [Accepts, Identities.read?, isRead, Option.map_some, Option.some.injEq,
    exists_eq_left', Leaf.check_eq_ok_iff noDomain]

/-- The last attribute speaks if it can be read, and those in front of it if it cannot. -/
theorem speaks_of_getLast? (last : entries.getLast? = some entry) (hostname : String) :
    (∀ name, entry.text? = some name →
      (Speaks entries hostname ↔ isMatched hostname name = true)) ∧
    (entry.text? = none → (Speaks entries hostname ↔ Speaks entries.dropLast hostname)) := by
  obtain ⟨front, rfl⟩ := List.getLast?_eq_some_iff.mp last
  simp only [Speaks, isLastRead_concat, List.dropLast_concat]
  constructor
  · intro name isText
    simp [isText]
  · intro isUnread
    simp [isUnread]

/-- Of two certificates without domain names that end in the same common name, both accept just the
hosts that this name covers, if it can be read. If it cannot, it is as if it were not there: each of
them accepts the hosts that the common names in front of it speak for. -/
theorem common_names_decide {first second : Bytes} {firstLeaf secondLeaf : Leaf}
    (isFirst : Leaf.read? first = some firstLeaf) (isSecond : Leaf.read? second = some secondLeaf)
    (firstNoDomain : ∀ name, .domain name ∉ firstLeaf.altNames.getD [])
    (secondNoDomain : ∀ name, .domain name ∉ secondLeaf.altNames.getD [])
    (endsFirst : firstLeaf.commonNameEntries.getLast? = some entry)
    (endsSecond : secondLeaf.commonNameEntries.getLast? = some entry) (hostname : String) :
    (∀ name, entry.text? = some name →
      (Accepts first hostname ↔ isMatched hostname name = true) ∧
        (Accepts second hostname ↔ isMatched hostname name = true)) ∧
    (entry.text? = none →
      (Accepts first hostname ↔ Speaks firstLeaf.commonNameEntries.dropLast hostname) ∧
        (Accepts second hostname ↔ Speaks secondLeaf.commonNameEntries.dropLast hostname)) := by
  rw [accepts_iff isFirst firstNoDomain, accepts_iff isSecond secondNoDomain]
  obtain ⟨readFirst, unreadFirst⟩ := speaks_of_getLast? endsFirst hostname
  obtain ⟨readSecond, unreadSecond⟩ := speaks_of_getLast? endsSecond hostname
  constructor
  · intro name isText
    exact ⟨readFirst name isText, readSecond name isText⟩
  · intro isUnread
    exact ⟨unreadFirst isUnread, unreadSecond isUnread⟩

/-! ## Certificates of given subjects -/

/-- A certificate of a subject, with a set for each attribute and without alternative names. -/
def ofSubject (subject : List Attribute) : Bytes :=
  let name := Element.encodeSequence (subject.map fun entry =>
    Element.encode 0x31 (Element.encodeSequence
      [Content.identifier entry.kind, Element.encode entry.tag.toUInt8 entry.value]))
  let body := Element.encodeSequence
    [[0x02, 0x01, 0x01], Content.algorithm, Content.name (some "ca"),
      Element.encodeSequence [Content.newYear 2020, Content.newYear 2030], name,
      Element.encodeSequence [Content.algorithm, [0x03, 0x02, 0x00, 0x04]]]
  Element.encodeSequence [body, Content.algorithm, [0x03, 0x02, 0x00, 0x00]]

/-- The common name of a host. -/
def hostEntry : Attribute := ⟨commonName, Element.utf8StringTag, Text.encode "api.example.com"⟩

/-- The common name of another host. -/
def otherEntry : Attribute := ⟨commonName, Element.utf8StringTag, Text.encode "www.example.com"⟩

/-- A common name with two bytes for each character, a kind of text that is not read. -/
def unreadEntry : Attribute := ⟨commonName, 30, [0x00, 0x78]⟩

/-- A certificate without domain names ends in a common name. -/
def EndsIn (bytes : Bytes) (entry : Attribute) : Prop :=
  ∃ leaf, Leaf.read? bytes = some leaf ∧ (∀ name, .domain name ∉ leaf.altNames.getD []) ∧
    leaf.commonNameEntries.getLast? = some entry

theorem endsIn_of_read? {bytes : Bytes}
    (isRead : (Leaf.read? bytes).map
      (fun leaf => (leaf.altNames.isNone, leaf.commonNameEntries.getLast?)) =
        some (true, some entry)) :
    EndsIn bytes entry := by
  obtain ⟨leaf, isLeaf, summary⟩ := Option.map_eq_some_iff.mp isRead
  obtain ⟨noAltNames, ends⟩ := Prod.mk.inj summary
  refine ⟨leaf, isLeaf, ?_, ends⟩
  rw [Option.isNone_iff_eq_none.mp noAltNames]
  simp

/-- Both certificates end in the common name of the host, and they accept that host and no other,
whatever stands in front. -/
theorem common_names_decide_hostLast :
    Accepts (ofSubject [unreadEntry, hostEntry]) "api.example.com" ∧
      Accepts (ofSubject [otherEntry, hostEntry]) "api.example.com" ∧
      ¬Accepts (ofSubject [otherEntry, hostEntry]) "www.example.com" := by
  have endsFirst : EndsIn (ofSubject [unreadEntry, hostEntry]) hostEntry :=
    endsIn_of_read? (by decide +kernel)
  have endsSecond : EndsIn (ofSubject [otherEntry, hostEntry]) hostEntry :=
    endsIn_of_read? (by decide +kernel)
  obtain ⟨first, isFirst, firstNoDomain, endsFirst⟩ := endsFirst
  obtain ⟨second, isSecond, secondNoDomain, endsSecond⟩ := endsSecond
  have isText : hostEntry.text? = some "api.example.com" := by decide +kernel
  have decided (hostname : String) := (common_names_decide isFirst isSecond firstNoDomain
    secondNoDomain endsFirst endsSecond hostname).1 _ isText
  have own : isMatched "api.example.com" "api.example.com" = true := by decide +kernel
  have foreign : ¬isMatched "www.example.com" "api.example.com" = true := by decide +kernel
  refine ⟨(decided _).1.mpr own, (decided _).2.mpr own, ?_⟩
  intro accepts
  exact foreign ((decided _).2.mp accepts)

/-- Both certificates end in a common name that is not read. One accepts the host that its other
common name names, and the other one does not. -/
theorem accepted_by_earlier_name :
    EndsIn (ofSubject [hostEntry, unreadEntry]) unreadEntry ∧
      EndsIn (ofSubject [otherEntry, unreadEntry]) unreadEntry ∧
      Accepts (ofSubject [hostEntry, unreadEntry]) "api.example.com" ∧
      ¬Accepts (ofSubject [otherEntry, unreadEntry]) "api.example.com" := by
  have host : Identities.read? (ofSubject [hostEntry, unreadEntry]) =
      some ⟨[], ["api.example.com"]⟩ := by
    decide +kernel
  have other : Identities.read? (ofSubject [otherEntry, unreadEntry]) =
      some ⟨[], ["www.example.com"]⟩ := by
    decide +kernel
  refine ⟨endsIn_of_read? (by decide +kernel), endsIn_of_read? (by decide +kernel), ?_, ?_⟩
  · exact ⟨_, host, Identities.check_eq_ok.mpr (by decide +kernel)⟩
  · rintro ⟨identities, isRead, accepts⟩
    rw [other] at isRead
    cases isRead
    exact absurd (Identities.check_eq_ok.mp accepts) (by decide +kernel)

end OneHost.Certificate
