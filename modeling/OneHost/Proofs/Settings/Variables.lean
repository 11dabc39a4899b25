import OneHost.Proofs.Text.Bytes
import OneHost.Proofs.Text.Numerals
import OneHost.Settings.Loading

/-!
# What the environment settles

Nine variables of the environment give settings. What each of them means for the settings is said
here for itself, and `ofEnvironment_eq_ok_iff` says that reading them all comes to just that. A
value that is not text counts as none: the hostname cannot have such a one, and of the others it is
passed over. `variables_settle_settings` says this of whatever is loaded.
-/

namespace OneHost

open Text (Spells trim)

/-! ## Reading one value -/

section Results

variable {ε α β : Type} {result : Except ε α} {next : α → Except ε β}

theorem bind_eq_ok_iff {value : β} :
    (result >>= next) = .ok value ↔ ∃ first, result = .ok first ∧ next first = .ok value := by
  cases result <;> simp [Bind.bind, Except.bind]

theorem bind_eq_error_iff {error : ε} :
    (result >>= next) = .error error ↔
      result = .error error ∨ ∃ first, result = .ok first ∧ next first = .error error := by
  cases result <;> simp [Bind.bind, Except.bind]

end Results

namespace Environment

variable {environment : Environment} {name : String}

/-- What is read is what the text of a value means, or the default where there is no text. -/
def Means {α : Type} (meaning : String → α → Prop) (default : α) (text : Option String)
    (read : α) : Prop :=
  match text with
  | some text => meaning text read
  | none => read = default

/-- A text is a numeral of a number, with white space around it. -/
def MeansNumber {α : Type} (toNat : α → Nat) (text : String) (value : α) : Prop :=
  Spells (trim text) (toNat value)

/-- A text is the name of a protocol, with white space around it. -/
def MeansProtocol (text : String) (protocol : Protocol) : Prop :=
  trim text = protocol.scheme

theorem text?_eq_some_iff {text : String} :
    environment.text? name = some text ↔ environment.get? name = some (Text.encode text) := by
  simp only [text?, Option.bind_eq_some_iff, Text.decode?_eq_some_iff, exists_eq_right]

theorem need_eq_ok_iff {text : String} :
    environment.need name = .ok text ↔ environment.text? name = some text := by
  unfold need text?
  cases environment.get? name with
  | none => simp
  | some value =>
    cases isText : Text.decode? value <;> simp [isText]

theorem number_eq_ok_iff {greatest : Nat} {number : Option Nat} :
    environment.number name greatest = .ok number ↔
      match environment.text? name with
      | some text => ∃ value, number = some value ∧ Spells (trim text) value ∧ value ≤ greatest
      | none => number = none := by
  unfold Environment.number
  cases environment.text? name with
  | none => simp [eq_comm]
  | some text =>
    simp only [← Text.readNumber_eq_ok_iff]
    cases Text.readNumber greatest (trim text) <;> simp [eq_comm]

/-- A number is read as a machine word, of which `toNat` gives the value: there is one for each
number up to the greatest. -/
theorem word_iff {α : Type} {toNat : α → Nat} {ofNat : Nat → α} {greatest : Nat} {default word : α}
    (small : ∀ word, toNat word ≤ greatest) (ofNat_toNat : ∀ word, ofNat (toNat word) = word)
    (toNat_ofNat : ∀ number ≤ greatest, toNat (ofNat number) = number) :
    (∃ number, environment.number name greatest = .ok number ∧
        (number.map ofNat).getD default = word) ↔
      Means (MeansNumber toNat) default (environment.text? name) word := by
  simp only [number_eq_ok_iff]
  cases environment.text? name with
  | none => simp [Means, eq_comm]
  | some text =>
    constructor
    · rintro ⟨_, ⟨value, rfl, spells, within⟩, rfl⟩
      change Spells (trim text) (toNat (ofNat value))
      rw [toNat_ofNat value within]
      exact spells
    · intro spells
      exact ⟨_, ⟨toNat word, rfl, spells, small word⟩, ofNat_toNat word⟩

theorem port_iff {default port : UInt16} :
    (∃ number, environment.number name (UInt16.size - 1) = .ok number ∧
        (number.map UInt16.ofNat).getD default = port) ↔
      Means (MeansNumber UInt16.toNat) default (environment.text? name) port :=
  word_iff (fun port => Nat.le_pred_of_lt port.toNat_lt) (fun _ => UInt16.ofNat_toNat)
    fun _ within => UInt16.toNat_ofNat_of_lt' (Nat.lt_of_le_pred (by decide) within)

theorem uint64_eq_ok_iff {default value : UInt64} :
    environment.uint64 name default = .ok value ↔
      Means (MeansNumber UInt64.toNat) default (environment.text? name) value := by
  rw [← word_iff (fun value => Nat.le_pred_of_lt value.toNat_lt) (fun _ => UInt64.ofNat_toNat)
    fun _ within => UInt64.toNat_ofNat_of_lt' (Nat.lt_of_le_pred (by decide) within)]
  simp only [uint64, bind_eq_ok_iff, pure, Except.pure, Except.ok.injEq]
  rfl

theorem protocol_eq_ok_iff {default protocol : Protocol} :
    environment.protocol name default = .ok protocol ↔
      Means MeansProtocol default (environment.text? name) protocol := by
  unfold Environment.protocol
  cases environment.text? name with
  | none => simp [Means, eq_comm]
  | some text =>
    simp only [Means, MeansProtocol, ← Protocol.parse?_eq_some_iff]
    cases Protocol.parse? (trim text) <;> simp

end Environment

/-! ## Failures -/

/-- The name of the variable that a failure is about. -/
def EnvironmentError.variableName : EnvironmentError → String
  | notSet name | notText name _ | notNumber name _ _ | notProtocol name _ => name

/-- The text of a failure begins with the name of the variable. -/
theorem EnvironmentError.messages_eq_cons (error : EnvironmentError) :
    ∃ rest more, error.messages = (error.variableName ++ rest) :: more := by
  cases error with
  | notSet name => exact ⟨_, _, rfl⟩
  | notText name value => exact ⟨_, _, rfl⟩
  | notNumber name value error =>
    exact ⟨" has an invalid value: " ++ Text.quote value, _,
      congrArg (· :: _) (String.append_assoc ..)⟩
  | notProtocol name value =>
    exact ⟨" has an invalid value: " ++ Text.quote value, _,
      congrArg (· :: _) (String.append_assoc ..)⟩

namespace Environment

variable {environment : Environment} {name : String} {error : EnvironmentError}

theorem variableName_of_need (fails : environment.need name = .error error) :
    error.variableName = name := by
  unfold need at fails
  split at fails
  · cases fails
    rfl
  · split at fails <;> cases fails
    rfl

theorem variableName_of_number {greatest : Nat}
    (fails : environment.number name greatest = .error error) : error.variableName = name := by
  unfold Environment.number at fails
  split at fails
  · contradiction
  · split at fails <;> cases fails
    rfl

theorem variableName_of_uint64 {default : UInt64}
    (fails : environment.uint64 name default = .error error) : error.variableName = name := by
  rcases bind_eq_error_iff.mp fails with fails | ⟨_, _, fails⟩
  · exact variableName_of_number fails
  · contradiction

theorem variableName_of_protocol {default : Protocol}
    (fails : environment.protocol name default = .error error) : error.variableName = name := by
  unfold Environment.protocol at fails
  split at fails
  · contradiction
  · split at fails <;> cases fails
    rfl

end Environment

/-! ## One setting -/

/-- The settings that the environment can give, each by a variable of its own. -/
inductive Setting where
  | hostname
  | port
  | protocol
  | healthPath
  | refreshPeriod
  | probePeriod
  | readTimeout
  | connectTimeout
  | caFile
  deriving DecidableEq

namespace Setting

open Environment (Means MeansNumber MeansProtocol)

/-- The name of the variable. -/
def variableName : Setting → String
  | hostname => "HOSTPOOL_HOSTNAME"
  | port => "HOSTPOOL_PORT"
  | protocol => "HOSTPOOL_PROTOCOL"
  | healthPath => "HOSTPOOL_HEALTH_PATH"
  | refreshPeriod => "HOSTPOOL_DNS_REFRESH_SECS"
  | probePeriod => "HOSTPOOL_HEALTH_CHECK_SECS"
  | readTimeout => "HOSTPOOL_HEALTH_READ_TIMEOUT_MS"
  | connectTimeout => "HOSTPOOL_CONNECT_TIMEOUT_MS"
  | caFile => "HOSTPOOL_CA_FILE"

/-- The setting is what the text of its variable stands for, or has its default if there is no text.
Hostname, health path and file of certificates are the text itself, and only the hostname has no
default; numbers and the protocol may have white space around them. -/
def Follows (setting : Setting) (text : Option String) (settings : Settings) : Prop :=
  match setting with
  | hostname => text = some settings.hostname
  | port => Means (MeansNumber UInt16.toNat) 443 text settings.port
  | protocol => Means MeansProtocol .https text settings.protocol
  | healthPath => settings.healthPath = text.getD ""
  | refreshPeriod => Means (MeansNumber UInt64.toNat) 300 text settings.refreshPeriod
  | probePeriod => Means (MeansNumber UInt64.toNat) 30 text settings.probePeriod
  | readTimeout => Means (MeansNumber UInt64.toNat) 5000 text settings.readTimeout
  | connectTimeout => Means (MeansNumber UInt64.toNat) 10000 text settings.connectTimeout
  | caFile => settings.trust.caFile = text

/-- No settings would do: the text of the variable stands for nothing, or there is none where there
has to be one. -/
def IsRefused (setting : Setting) (environment : Environment) : Prop :=
  ∀ settings, ¬setting.Follows (environment.text? setting.variableName) settings

end Setting

/-! ## All settings -/

/-- Settings follow an environment: each that it can give follows its variable, and the others have
their defaults. -/
structure Settings.Follow (settings : Settings) (environment : Environment) : Prop where
  each : ∀ setting : Setting, setting.Follows (environment.text? setting.variableName) settings
  bundledRoots : settings.trust.bundledRoots = true
  failureThreshold : settings.failureThreshold = -1
  resolver : settings.resolver = .system
  cache : settings.cache = {}
  edits : settings.edits = none

namespace Settings

variable {environment : Environment} {settings : Settings}

theorem ofEnvironment_eq_ok_iff :
    ofEnvironment environment = .ok settings ↔ settings.Follow environment := by
  unfold ofEnvironment
  simp only [bind_eq_ok_iff, pure, Except.pure, Except.ok.injEq, Environment.need_eq_ok_iff,
    Environment.uint64_eq_ok_iff, Environment.protocol_eq_ok_iff]
  constructor
  · rintro ⟨hostname, isHostname, port, isPort, protocol, isProtocol, refreshPeriod,
      isRefreshPeriod, probePeriod, isProbePeriod, readTimeout, isReadTimeout, connectTimeout,
      isConnectTimeout, rfl⟩
    refine ⟨?_, rfl, rfl, rfl, rfl, rfl⟩
    intro setting
    cases setting with
    | hostname => exact isHostname
    | port => exact Environment.port_iff.mp ⟨port, isPort, rfl⟩
    | protocol => exact isProtocol
    | healthPath => rfl
    | refreshPeriod => exact isRefreshPeriod
    | probePeriod => exact isProbePeriod
    | readTimeout => exact isReadTimeout
    | connectTimeout => exact isConnectTimeout
    | caFile => rfl
  · rintro ⟨each, bundledRoots, failureThreshold, resolver, cache, edits⟩
    obtain ⟨port, isPort, samePort⟩ := Environment.port_iff.mpr (each .port)
    refine ⟨settings.hostname, each .hostname, port, isPort, settings.protocol, each .protocol,
      settings.refreshPeriod, each .refreshPeriod, settings.probePeriod, each .probePeriod,
      settings.readTimeout, each .readTimeout, settings.connectTimeout, each .connectTimeout, ?_⟩
    have healthPath : settings.healthPath = _ := each .healthPath
    have caFile : settings.trust.caFile = _ := each .caFile
    obtain ⟨_, _, _, _, _, _, _, _, _, _, ⟨_, _⟩, _, _⟩ := settings
    cases bundledRoots
    cases failureThreshold
    cases resolver
    cases cache
    cases edits
    cases healthPath
    cases caFile
    cases samePort
    rfl

/-- What is read stands for something, so a value that cannot be read stands for nothing. -/
theorem exists_isRefused {α : Type} {result : Except EnvironmentError α} {error : EnvironmentError}
    (setting : Setting) (fails : result = .error error)
    (named : error.variableName = setting.variableName)
    (succeeds : ∀ settings, setting.Follows (environment.text? setting.variableName) settings →
      ∃ value, result = .ok value) :
    ∃ setting : Setting, setting.IsRefused environment ∧
      error.variableName = setting.variableName := by
  refine ⟨setting, ?_, named⟩
  intro settings follows
  obtain ⟨value, succeeds⟩ := succeeds settings follows
  rw [fails] at succeeds
  contradiction

/-- The variables are read one after the other, and the first failure is that of the whole. -/
theorem ofEnvironment_eq_error {error : EnvironmentError}
    (fails : ofEnvironment environment = .error error) :
    ∃ setting : Setting, setting.IsRefused environment ∧
      error.variableName = setting.variableName := by
  unfold ofEnvironment at fails
  simp only [bind_eq_error_iff] at fails
  rcases fails with fails | ⟨hostname, _, fails⟩
  · apply exists_isRefused .hostname fails (Environment.variableName_of_need fails)
    exact fun _ follows => ⟨_, Environment.need_eq_ok_iff.mpr follows⟩
  rcases fails with fails | ⟨port, _, fails⟩
  · apply exists_isRefused .port fails (Environment.variableName_of_number fails)
    intro settings follows
    obtain ⟨port, isPort, -⟩ := Environment.port_iff.mpr follows
    exact ⟨port, isPort⟩
  rcases fails with fails | ⟨protocol, _, fails⟩
  · apply exists_isRefused .protocol fails (Environment.variableName_of_protocol fails)
    exact fun _ follows => ⟨_, Environment.protocol_eq_ok_iff.mpr follows⟩
  rcases fails with fails | ⟨refreshPeriod, _, fails⟩
  · apply exists_isRefused .refreshPeriod fails (Environment.variableName_of_uint64 fails)
    exact fun _ follows => ⟨_, Environment.uint64_eq_ok_iff.mpr follows⟩
  rcases fails with fails | ⟨probePeriod, _, fails⟩
  · apply exists_isRefused .probePeriod fails (Environment.variableName_of_uint64 fails)
    exact fun _ follows => ⟨_, Environment.uint64_eq_ok_iff.mpr follows⟩
  rcases fails with fails | ⟨readTimeout, _, fails⟩
  · apply exists_isRefused .readTimeout fails (Environment.variableName_of_uint64 fails)
    exact fun _ follows => ⟨_, Environment.uint64_eq_ok_iff.mpr follows⟩
  rcases fails with fails | ⟨connectTimeout, _, fails⟩
  · apply exists_isRefused .connectTimeout fails (Environment.variableName_of_uint64 fails)
    exact fun _ follows => ⟨_, Environment.uint64_eq_ok_iff.mpr follows⟩
  · contradiction

end Settings

/-! ## Loading -/

/-- The environment with what the file adds to it, if there is one. -/
def Environment.extended (environment : Environment) (file : Option String) : Environment :=
  file.elim environment environment.addFile

/-- What a value of a variable does to a setting: it settles it if it is text, and otherwise nothing
is made of it, unless it is the hostname that it should give. -/
def Setting.IsSettledBy (setting : Setting) (value : Bytes) (settings : Settings) : Prop :=
  (∃ text, value = Text.encode text ∧ setting.Follows (some text) settings) ∨
    (∀ text, value ≠ Text.encode text) ∧ setting ≠ .hostname ∧ setting.Follows none settings

theorem Setting.isSettledBy {environment : Environment} {setting : Setting} {value : Bytes}
    {settings : Settings}
    (follows : setting.Follows (environment.text? setting.variableName) settings)
    (isSet : environment.get? setting.variableName = some value) :
    setting.IsSettledBy value settings := by
  cases isText : environment.text? setting.variableName with
  | some text =>
    rw [isText] at follows
    rw [Environment.text?_eq_some_iff, isSet, Option.some.injEq] at isText
    exact .inl ⟨text, isText, follows⟩
  | none =>
    rw [isText] at follows
    refine .inr ⟨?_, ?_, follows⟩
    · rintro text rfl
      rw [Environment.text?_eq_some_iff.mpr isSet] at isText
      contradiction
    · rintro rfl
      contradiction

namespace Settings

variable {environment : Environment} {file : Option String} {settings : Settings}

theorem validated_eq_ok_iff {other : Settings} :
    other.validated = .ok settings ↔ other = settings ∧ settings.validate = .ok () := by
  unfold validated
  constructor
  · intro loads
    split at loads
    · cases loads
      exact ⟨rfl, ‹_›⟩
    · contradiction
  · rintro ⟨rfl, valid⟩
    rw [valid]

theorem ofSurroundings_of_ok (reads : ofEnvironment (environment.extended file) = .ok settings) :
    ofSurroundings environment file = settings.validated := by
  rw [Environment.extended] at reads
  rw [ofSurroundings, reads]

theorem ofSurroundings_of_error {error : EnvironmentError}
    (fails : ofEnvironment (environment.extended file) = .error error) :
    ofSurroundings environment file = .error (.environment error) := by
  rw [Environment.extended] at fails
  rw [ofSurroundings, fails]

theorem ofSurroundings_eq_ok_iff :
    ofSurroundings environment file = .ok settings ↔
      settings.Follow (environment.extended file) ∧ settings.validate = .ok () := by
  rw [← ofEnvironment_eq_ok_iff]
  cases reads : ofEnvironment (environment.extended file) with
  | error error => simp [ofSurroundings_of_error reads]
  | ok read => simp [ofSurroundings_of_ok reads, validated_eq_ok_iff]

theorem ofSurroundings_eq_environment_iff {error : EnvironmentError} :
    ofSurroundings environment file = .error (.environment error) ↔
      ofEnvironment (environment.extended file) = .error error := by
  cases reads : ofEnvironment (environment.extended file) with
  | error other => simp [ofSurroundings_of_error reads]
  | ok read =>
    rw [ofSurroundings_of_ok reads, validated]
    split <;> simp

theorem exists_isRefused_iff :
    (∃ setting : Setting, setting.IsRefused environment) ↔
      ∃ error, ofEnvironment environment = .error error := by
  constructor
  · rintro ⟨setting, refused⟩
    cases reads : ofEnvironment environment with
    | error error => exact ⟨error, rfl⟩
    | ok settings =>
      exact absurd ((ofEnvironment_eq_ok_iff.mp reads).each setting) (refused settings)
  · rintro ⟨error, fails⟩
    obtain ⟨setting, refused, -⟩ := ofEnvironment_eq_error fails
    exact ⟨setting, refused⟩

/-- Settings are loaded from an environment just when they follow it, that is the environment with
what the file has added, and are valid. A variable that is set has then settled its setting if its
value is text; if it is not, the setting is not the hostname and has its default. Reading fails just
when the text of a variable stands for nothing, or there is no hostname, and the failure begins with
the name of such a variable. -/
theorem variables_settle_settings (environment : Environment) (file : Option String) :
    (∀ settings, ofSurroundings environment file = .ok settings ↔
      settings.Follow (environment.extended file) ∧ settings.validate = .ok ()) ∧
    (∀ settings (setting : Setting) value, ofSurroundings environment file = .ok settings →
      (environment.extended file).get? setting.variableName = some value →
        setting.IsSettledBy value settings) ∧
    ((∃ setting : Setting, setting.IsRefused (environment.extended file)) ↔
      ∃ error, ofSurroundings environment file = .error (.environment error)) ∧
    ∀ error, ofSurroundings environment file = .error (.environment error) →
      ∃ setting : Setting, setting.IsRefused (environment.extended file) ∧
        ∃ rest more, error.messages = (setting.variableName ++ rest) :: more := by
  refine ⟨fun _ => ofSurroundings_eq_ok_iff, ?_, ?_, ?_⟩
  · intro settings setting value loads isSet
    exact setting.isSettledBy ((ofSurroundings_eq_ok_iff.mp loads).1.each setting) isSet
  · simp only [ofSurroundings_eq_environment_iff, exists_isRefused_iff]
  · intro error fails
    obtain ⟨setting, refused, sameName⟩ :=
      ofEnvironment_eq_error (ofSurroundings_eq_environment_iff.mp fails)
    exact ⟨setting, refused, sameName ▸ error.messages_eq_cons⟩

/-- An environment whose port and whose file of certificates end in a byte that is not text. -/
def illWritten : Environment :=
  ⟨[("HOSTPOOL_HOSTNAME", Text.encode "api.example.com"), ("HOSTPOOL_PORT", [0x38, 0xff]),
    ("HOSTPOOL_CA_FILE", Text.encode "/etc/ca" ++ [0xe9])]⟩

/-- It is loaded, with the usual port and no file of certificates, as if neither had been set. -/
theorem illWritten_passes :
    (ofSurroundings illWritten none).map
        (fun settings => (settings.hostname, settings.port, settings.trust.caFile)) =
      .ok ("api.example.com", 443, none) := by
  decide +kernel

end Settings

end OneHost
