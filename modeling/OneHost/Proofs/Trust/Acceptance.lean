import OneHost.Trust.Verifier

/-!
# Which servers are trusted

A server is trusted when its chain is sound and its leaf names the pinned host. What it means to
name a host is said here for the leaf itself, without regard to how the names are gathered and
compared. The delegate and the reader of leaves are arbitrary throughout.
-/

namespace OneHost

open Hostname (isMatched)

namespace Certificate

/-- A leaf names a host: one of its domain names covers the host, or there is none and the last of
its common names does. -/
inductive Leaf.Names (leaf : Leaf) (hostname : String) : Prop
  | byDomain {name : String} (listed : .domain name ∈ leaf.altNames.getD [])
      (matched : isMatched hostname name = true)
  | byCommonName {name : String} (noDomain : ∀ other, .domain other ∉ leaf.altNames.getD [])
      (last : leaf.commonNames.getLast? = some name) (matched : isMatched hostname name = true)

variable {leaf : Leaf} {hostname : String}

theorem Leaf.mem_dnsNames {name : String} :
    name ∈ leaf.identities.dnsNames ↔ .domain name ∈ leaf.altNames.getD [] := by
  simp only [Leaf.identities, List.mem_filterMap]
  constructor
  · rintro ⟨altName, listed, isDomain⟩
    cases altName with
    | domain other => exact Option.some.inj isDomain ▸ listed
    | other => contradiction
  · intro listed
    exact ⟨_, listed, rfl⟩

theorem Leaf.dnsNames_eq_nil :
    leaf.identities.dnsNames = [] ↔ ∀ name, .domain name ∉ leaf.altNames.getD [] := by
  simp only [List.eq_nil_iff_forall_not_mem, Leaf.mem_dnsNames]

theorem Leaf.covers_iff_names :
    leaf.identities.covers hostname = true ↔ leaf.Names hostname := by
  have sameCommonNames : leaf.identities.commonNames = leaf.commonNames := rfl
  unfold Identities.covers
  cases domains : leaf.identities.dnsNames with
  | nil =>
    have noDomain := Leaf.dnsNames_eq_nil.mp domains
    rw [if_pos List.isEmpty_nil, sameCommonNames]
    constructor
    · intro covered
      cases last : leaf.commonNames.getLast? with
      | none => simp [last] at covered
      | some name => exact .byCommonName noDomain last (by simpa [last] using covered)
    · intro names
      cases names with
      | byDomain listed _ => exact absurd listed (noDomain _)
      | byCommonName _ last matched => simp [last, matched]
  | cons first rest =>
    have listed (name : String) :
        name ∈ first :: rest ↔ .domain name ∈ leaf.altNames.getD [] := domains ▸ Leaf.mem_dnsNames
    rw [if_neg (by simp), List.any_eq_true]
    constructor
    · rintro ⟨name, member, matched⟩
      exact .byDomain ((listed name).mp member) matched
    · intro names
      cases names with
      | byDomain named matched => exact ⟨_, (listed _).mpr named, matched⟩
      | byCommonName noDomain _ _ =>
        exact absurd ((listed first).mp List.mem_cons_self) (noDomain first)

end Certificate

namespace Trust

open Certificate (Leaf)

variable {expected : String} {delegate : Delegate} {read? : Bytes → Option Leaf}
variable {verifier : Verifier}

/-- The delegate finds the chain sound: it has nothing to object, or only to the names. -/
def Sound (verdict : Except TrustError Unit) : Prop :=
  verdict = .ok () ∨ verdict = .error (.certificate .notValidForName) ∨
    verdict = .error (.certificate .notValidForNameContext)

theorem TrustError.isNameError_iff (error : TrustError) :
    error.isNameError = true ↔ Sound (.error error) := by
  simp only [Sound, reduceCtorEq, false_or, Except.error.injEq]
  constructor
  · intro isName
    unfold TrustError.isNameError at isName
    split at isName <;> simp_all
  · rintro (rfl | rfl) <;> rfl

namespace Verifier

theorem make_eq_ok_iff :
    make expected delegate read? = .ok verifier ↔
      ∃ name, ServerName.parse? expected = some name ∧
        verifier = { expected, expectedName := name, delegate, read? } := by
  unfold make
  cases parsed : ServerName.parse? expected with
  | none => simp
  | some name => simp [eq_comm]

theorem checkHostname_eq_ok (bytes : Bytes) :
    (verifier.checkHostname bytes).1 = .ok () ↔
      ∃ leaf, verifier.read? bytes = some leaf ∧ leaf.Names verifier.expected := by
  unfold checkHostname
  cases read : verifier.read? bytes with
  | none => simp
  | some leaf =>
    simp only [Option.some.injEq, exists_eq_left', ← Leaf.covers_iff_names,
      ← Certificate.Identities.check_eq_ok]
    cases checked : leaf.identities.check verifier.expected with
    | ok verdict => simp
    | error mismatch => simp

theorem verify_of_sound (handshakeName : ServerName) {presentation : Presentation}
    (sound : Sound (verifier.delegate verifier.expectedName presentation)) :
    (verifier.verify handshakeName presentation).1 =
      (verifier.checkHostname presentation.leaf).1 := by
  unfold verify
  cases verdict : verifier.delegate verifier.expectedName presentation with
  | ok accepted => rfl
  | error error =>
    have isName := error.isNameError_iff.mpr (verdict ▸ sound)
    simp only [isName, if_true]

theorem verify_of_unsound (handshakeName : ServerName) {presentation : Presentation}
    {error : TrustError}
    (fails : verifier.delegate verifier.expectedName presentation = .error error)
    (unsound : ¬Sound (.error error)) :
    (verifier.verify handshakeName presentation).1 = .error error := by
  have other : ¬error.isNameError = true := fun isName => unsound (error.isNameError_iff.mp isName)
  simp only [verify, fails, if_neg other]

/-- The verdict does not depend on the name that the handshake began with. -/
theorem verify_fst_congr (first second : ServerName) (presentation : Presentation) :
    (verifier.verify first presentation).1 = (verifier.verify second presentation).1 := by
  by_cases sound : Sound (verifier.delegate verifier.expectedName presentation)
  · rw [verify_of_sound first sound, verify_of_sound second sound]
  · cases verdict : verifier.delegate verifier.expectedName presentation with
    | ok accepted => exact absurd (.inl verdict) sound
    | error error =>
      rw [verdict] at sound
      rw [verify_of_unsound first verdict sound, verify_of_unsound second verdict sound]

theorem verify_eq_ok (handshakeName : ServerName) (presentation : Presentation) :
    (verifier.verify handshakeName presentation).1 = .ok () ↔
      Sound (verifier.delegate verifier.expectedName presentation) ∧
        ∃ leaf, verifier.read? presentation.leaf = some leaf ∧ leaf.Names verifier.expected := by
  by_cases sound : Sound (verifier.delegate verifier.expectedName presentation)
  · rw [verify_of_sound handshakeName sound, checkHostname_eq_ok, and_iff_right sound]
  · refine iff_of_false ?_ fun trusted => sound trusted.1
    cases verdict : verifier.delegate verifier.expectedName presentation with
    | ok accepted => exact absurd (.inl verdict) sound
    | error error =>
      rw [verify_of_unsound handshakeName verdict (verdict ▸ sound)]
      simp

/-- A server is trusted just when the delegate, asked about the pinned name, finds its chain sound,
and its leaf can be read and names the pinned host. An objection of the delegate to anything but the
names is final, whatever the leaf. The name that the handshake began with makes no difference. -/
theorem verify_trusts_iff (made : make expected delegate read? = .ok verifier)
    (presentation : Presentation) :
    ∃ name, ServerName.parse? expected = some name ∧
      (∀ handshakeName, (verifier.verify handshakeName presentation).1 = .ok () ↔
        Sound (delegate name presentation) ∧
          ∃ leaf, read? presentation.leaf = some leaf ∧ leaf.Names expected) ∧
      (∀ handshakeName error, delegate name presentation = .error error →
        ¬Sound (.error error) →
          (verifier.verify handshakeName presentation).1 = .error error) ∧
      ∀ first second, (verifier.verify first presentation).1 =
        (verifier.verify second presentation).1 := by
  obtain ⟨name, parsed, rfl⟩ := make_eq_ok_iff.mp made
  refine ⟨name, parsed, ?_, ?_, ?_⟩
  · intro handshakeName
    exact verify_eq_ok handshakeName presentation
  · intro handshakeName error fails unsound
    exact verify_of_unsound handshakeName fails unsound
  · intro first second
    exact verify_fst_congr first second presentation

/-- A leaf whose only domain name has a wildcard. -/
def wildcardLeaf : Leaf where
  notBefore := ⟨2020, 1, 1, 0, 0, 0⟩
  notAfter := ⟨2030, 1, 1, 0, 0, 0⟩
  subject := []
  altNames := some [.other, .domain "a*.example.com"]

/-- A host that is dialled by its address: the delegate objects to the names, but the wildcard
covers the host. -/
theorem verify_trusts_wildcard :
    ∃ verifier,
      make "a1.example.com" (fun _ _ => .error (.certificate .notValidForNameContext))
        (fun _ => some wildcardLeaf) = .ok verifier ∧
      (verifier.verify (.ip (.v4 ⟨10, 0, 0, 1⟩)) ⟨[], [], [], 0⟩).1 = .ok () := by
  have parsed : ServerName.parse? "a1.example.com" = some (.dns "a1.example.com") := by
    decide +kernel
  obtain ⟨verifier, made⟩ : ∃ verifier,
      make "a1.example.com" (fun _ _ => .error (.certificate .notValidForNameContext))
        (fun _ => some wildcardLeaf) = .ok verifier :=
    ⟨_, make_eq_ok_iff.mpr ⟨_, parsed, rfl⟩⟩
  have matched : isMatched "a1.example.com" "a*.example.com" = true := by decide +kernel
  have names : wildcardLeaf.Names "a1.example.com" := .byDomain (by simp [wildcardLeaf]) matched
  obtain ⟨name, _, trusted, _⟩ := verify_trusts_iff made ⟨[], [], [], 0⟩
  exact ⟨verifier, made, (trusted _).mpr ⟨.inr (.inr rfl), _, rfl, names⟩⟩

end Verifier

end Trust

end OneHost
