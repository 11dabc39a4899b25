import OneHost.Proofs.Http.Probing
import OneHost.Settings.Server

/-!
# What accepted settings are good for

Validation asks for a hostname that is not blank and has no slash in it, for a port, and for periods
and timeouts that are not zero. It looks neither at the health path nor at the other characters of
the hostname. `accepted_iff_and_probed_iff` sets beside each other what is accepted and what probes
and requests can be made of it.
-/

namespace OneHost

open Text (isBlank trimmed)

/-! ## Blank texts -/

theorem Text.trimmed_eq_nil_iff {text : List Char} :
    trimmed text = [] ↔ ∀ c ∈ text, isBlank c = true := by
  rw [trimmed, List.reverse_eq_nil_iff, List.dropWhile_eq_nil_iff]
  constructor
  · intro rest
    have none : text.dropWhile isBlank = [] := by
      have front := List.head?_dropWhile_not isBlank text
      cases left : text.dropWhile isBlank with
      | nil => rfl
      | cons c more =>
        rw [left] at front rest
        have blank := rest c (by simp)
        simp [blank] at front
    exact List.dropWhile_eq_nil_iff.mp none
  · intro all c among
    exact all c ((List.dropWhile_sublist _).subset (List.mem_reverse.mp among))

namespace Settings

variable {settings : Settings}

/-- By induction on the text in which the part is looked for. -/
theorem mem_of_occursIn {part text : List Char} (occurs : occursIn part text = true) {c : Char}
    (inPart : c ∈ part) : c ∈ text := by
  induction text with
  | nil =>
    have none : part = [] := List.isEmpty_iff.mp occurs
    rw [none] at inPart
    contradiction
  | cons first rest ih =>
    rw [occursIn, Bool.or_eq_true] at occurs
    cases occurs with
    | inl here => exact (List.isPrefixOf_iff_prefix.mp here).subset inPart
    | inr later => exact List.mem_cons_of_mem first (ih later)

/-- A hostname in which `://` occurs has a slash. -/
theorem bare_iff {hostname : List Char} :
    (occursIn "://".toList hostname || hostname.contains '/') = false ↔ '/' ∉ hostname := by
  have slash : hostname.contains '/' = false ↔ '/' ∉ hostname := by
    rw [Bool.eq_false_iff, Ne, List.contains_iff_mem]
  rw [Bool.or_eq_false_iff, slash]
  constructor
  · exact And.right
  · intro noSlash
    refine ⟨?_, noSlash⟩
    apply Bool.eq_false_iff.mpr
    intro occurs
    exact noSlash (mem_of_occursIn occurs (by decide))

theorem validate_eq_ok_iff :
    settings.validate = .ok () ↔
      (∃ c ∈ settings.hostname.toList, isBlank c = false) ∧ '/' ∉ settings.hostname.toList ∧
        settings.port ≠ 0 ∧ ∀ field ∈ settings.positives, field.2 ≠ 0 := by
  have named : (∃ c ∈ settings.hostname.toList, isBlank c = false) ↔
      (trimmed settings.hostname.toList).isEmpty = false := by
    rw [List.isEmpty_eq_false_iff, Ne, Text.trimmed_eq_nil_iff]
    simp
  have free : (∀ field ∈ settings.positives, field.2 ≠ 0) ↔
      settings.positives.find? (·.2 = 0) = none := by
    simp [List.find?_eq_none]
  rw [named, ← bare_iff, free]
  unfold validate
  dsimp only
  generalize (trimmed settings.hostname.toList).isEmpty = unnamed
  generalize (occursIn "://".toList settings.hostname.toList ||
    settings.hostname.toList.contains '/') = slashed
  generalize settings.positives.find? (·.2 = 0) = zero
  cases unnamed with
  | true => simp
  | false =>
    cases slashed with
    | true => simp
    | false =>
      by_cases noPort : settings.port = 0
      · simp [noPort]
      · cases zero <;> simp [noPort]

/-! ## Accepted settings -/

/-- Settings are accepted if the hostname has a character that is not blank and none that is a
slash, and if port, periods and timeouts are not zero. Of such settings, or any others, a probe can
be made at an address just when the health path can be read as a resource, the URI of the probe is
not too long, and the hostname has no control character but the tab; and a request can be aimed at an
address, with the hostname in its header, just when the last of these holds. -/
theorem accepted_iff_and_probed_iff (settings : Settings) :
    (settings.validate = .ok () ↔
      (∃ c ∈ settings.hostname.toList, isBlank c = false) ∧ '/' ∉ settings.hostname.toList ∧
        settings.port ≠ 0 ∧ ∀ field ∈ settings.positives, field.2 ≠ 0) ∧
    ((∃ host, Http.headerValue settings.target.hostHeader = .ok host) ↔
      ∀ c ∈ settings.hostname.toList, Http.isHeaderChar c = true) ∧
    ∀ ip,
      ((∃ request, settings.prober.request ip = .ok request) ↔
        Http.Resource.Readable settings.healthPath.toList ∧
          (settings.target.uriText ip settings.healthPath).utf8ByteSize ≤ Http.Uri.maxLength ∧
            ∀ c ∈ settings.hostname.toList, Http.isHeaderChar c = true) ∧
      ((∃ request aimed, settings.target.retarget ip request = .ok aimed) ↔
        ∀ c ∈ settings.hostname.toList, Http.isHeaderChar c = true) := by
  refine ⟨validate_eq_ok_iff, Http.Target.exists_hostHeader_iff, ?_⟩
  intro ip
  constructor
  · exact Http.Target.exists_healthCheck_iff
  · exact Http.Target.exists_retarget_iff

/-- Settings with a blank in the health path. -/
def blankInPath : Settings := { hostname := "api.example", healthPath := "/health check" }

/-- Settings with a line break in the hostname. -/
def brokenHostname : Settings := { hostname := "api\n.example" }

/-- Both are accepted. The one cannot be probed at any address, so that none of its endpoints will
ever be up; and of the other one no request can be made at all. -/
theorem accepted_but_never_probed :
    blankInPath.validate = .ok () ∧
      blankInPath.prober.request (.v4 ⟨10, 0, 0, 1⟩) = .error (.invalidUri .invalidCharacter) ∧
      (∀ ip, ¬∃ request, blankInPath.prober.request ip = .ok request) ∧
      brokenHostname.validate = .ok () ∧
      Http.headerValue brokenHostname.target.hostHeader = .error .invalidHeaderValue ∧
      ∀ ip, ¬∃ request aimed, brokenHostname.target.retarget ip request = .ok aimed := by
  refine ⟨by decide +kernel, by decide +kernel, ?_, by decide +kernel, by decide +kernel, ?_⟩
  · intro ip isProbed
    have readable := (Http.Target.exists_healthCheck_iff.mp isProbed).1
    rcases readable.exists_parse with ⟨resource, isRead⟩
    have refused : Http.Resource.parse blankInPath.prober.healthPath.toList =
        .error .invalidCharacter := by
      decide
    rw [refused] at isRead
    contradiction
  · intro ip isAimed
    have legal := Http.Target.exists_retarget_iff.mp isAimed
    exact absurd (legal '\n' (by decide)) (by decide)

end Settings

end OneHost
