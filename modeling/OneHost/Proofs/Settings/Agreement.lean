import OneHost.Proofs.Settings.Variables
import OneHost.Proofs.Yaml.Inline

/-!
# The same settings in a file and in the environment

Hostname, port, protocol, health path, periods, timeouts and the file of certificates can be given
in a file or in the environment, each or not. `file_and_environment_agree` says that it makes no
difference where: what is given is what is loaded, and what is refused is refused for the same
reason. Of the form of the file it only asks that it be a mapping of what is given, in any order.
There is a file of that form for any choice, and `Given.document` is one.
-/

namespace OneHost

open Yaml (Source Inline)

/-! ## Numbers -/

namespace Yaml

/-- By induction on the number: the first digit is that of what is left without the last one. -/
theorem head?_toDigits_ne_zero {number : Nat} (positive : 0 < number) :
    (Nat.toDigits 10 number).head? ≠ some '0' := by
  induction number using Nat.strongRecOn with
  | ind number ih =>
    rw [Nat.toDigits_eq_if (by decide)]
    split
    · rename_i small
      have all : ∀ digit < 10, 0 < digit → [Nat.digitChar digit].head? ≠ some '0' := by decide
      exact all number small positive
    · rename_i large
      have front := ih (number / 10) (by omega) (by omega)
      rwa [List.head?_append_of_ne_nil _ Nat.toDigits_ne_nil]

theorem digits?_eq {digits : List Char} (notEmpty : digits ≠ [])
    (areDigits : ∀ c ∈ digits, c.isDigit = true) :
    digits? 10 digits = some (Nat.ofDigitChars 10 digits 0) := by
  have each : ∀ c ∈ digits, hexDigit? c = some (c.toNat - '0'.toNat) := by
    intro c among
    rw [hexDigit?, if_pos (areDigits c among)]
  have small : (digits.map fun c => c.toNat - '0'.toNat).any (10 ≤ ·) = false := by
    rw [List.any_eq_false]
    intro digit isValue
    obtain ⟨c, among, rfl⟩ := List.mem_map.mp isValue
    apply of_isDigit _ (areDigits c among)
    decide
  rw [digits?, mapM_eq_some_map each]
  simp only [bind, Option.bind, small, List.isEmpty_map, List.isEmpty_eq_false_iff.mpr notEmpty]
  rw [List.foldl_map, Nat.ofDigitChars]
  simp only [Nat.mul_comm]
  rfl

theorem magnitude?_eq {digits : List Char}
    (noneSuperfluous : digits = ['0'] ∨ digits.head? ≠ some '0') :
    magnitude? digits = digits? 10 digits := by
  unfold magnitude?
  rcases noneSuperfluous with rfl | noZero
  · rfl
  · split <;> first | rfl | exact absurd rfl noZero

theorem unsigned?_decimal (number : Nat) : unsigned? (Text.decimal number) = some number := by
  have areDigits : ∀ c ∈ Nat.toDigits 10 number, c.isDigit = true := fun c among =>
    Nat.isDigit_of_mem_toDigits (by decide) (by decide) among
  have value := digits?_eq Nat.toDigits_ne_nil areDigits
  rw [Nat.ofDigitChars_ten_toDigits] at value
  have noneSuperfluous : Nat.toDigits 10 number = ['0'] ∨
      (Nat.toDigits 10 number).head? ≠ some '0' := by
    rcases Nat.eq_zero_or_pos number with rfl | positive
    · exact .inl rfl
    · exact .inr (head?_toDigits_ne_zero positive)
  rw [unsigned?, Text.decimal, String.toList_ofList]
  split
  · rename_i digits isText
    rw [isText] at areDigits
    exact absurd (areDigits '+' List.mem_cons_self) (by decide)
  · rw [magnitude?_eq noneSuperfluous, value]

namespace Source

variable (source : Source)

theorem natural?_decimal {bound number : Nat} (small : number < bound) :
    source.natural? bound (.scalar none .plain (Text.decimal number)) = some number := by
  simp [natural?, textFor?, follow, unsigned?_decimal, small]

theorem uint64?_decimal (value : UInt64) :
    source.uint64? (.scalar none .plain (Text.decimal value.toNat)) = some value := by
  simp [uint64?, natural?_decimal source value.toNat_lt]

end Source

end Yaml

/-! ## What is given -/

/-- The settings that are given, some of those that the environment can give. -/
structure Given where
  hostname : String
  port : Option UInt16 := none
  protocol : Option Protocol := none
  healthPath : Option String := none
  refreshPeriod : Option UInt64 := none
  probePeriod : Option UInt64 := none
  readTimeout : Option UInt64 := none
  connectTimeout : Option UInt64 := none
  caFile : Option String := none

namespace Given

/-- The text of a setting that is given. Numbers are in decimal digits. -/
def text? (given : Given) : Setting → Option String
  | .hostname => some given.hostname
  | .port => given.port.map fun port => Text.decimal port.toNat
  | .protocol => given.protocol.map Protocol.scheme
  | .healthPath => given.healthPath
  | .refreshPeriod => given.refreshPeriod.map fun period => Text.decimal period.toNat
  | .probePeriod => given.probePeriod.map fun period => Text.decimal period.toNat
  | .readTimeout => given.readTimeout.map fun timeout => Text.decimal timeout.toNat
  | .connectTimeout => given.connectTimeout.map fun timeout => Text.decimal timeout.toNat
  | .caFile => given.caFile

/-- What is given, with the defaults of what is not. -/
def settings (given : Given) : Settings :=
  let default : Settings := { hostname := given.hostname }
  { hostname := given.hostname
    port := given.port.getD default.port
    protocol := given.protocol.getD default.protocol
    healthPath := given.healthPath.getD default.healthPath
    refreshPeriod := given.refreshPeriod.getD default.refreshPeriod
    probePeriod := given.probePeriod.getD default.probePeriod
    readTimeout := given.readTimeout.getD default.readTimeout
    connectTimeout := given.connectTimeout.getD default.connectTimeout
    trust := { default.trust with caFile := given.caFile } }

end Given

/-! ## In the environment -/

/-- Of the variables that give settings, an environment has those of what is given. -/
def Environment.Gives (environment : Environment) (given : Given) : Prop :=
  ∀ setting : Setting,
    environment.get? setting.variableName = (given.text? setting).map Text.encode

theorem Text.trim_eq_self {text : String} (noBlank : ∀ c ∈ text.toList, isBlank c = false) :
    trim text = text := by
  have kept (chars : List Char) (noBlank : ∀ c ∈ chars, isBlank c = false) :
      chars.dropWhile isBlank = chars := by
    cases chars with
    | nil => rfl
    | cons c rest => rw [List.dropWhile_cons, noBlank c List.mem_cons_self, if_neg (by simp)]
  rw [trim, trimmed, kept _ noBlank, kept _ (by simpa using noBlank),
    List.reverse_reverse, String.ofList_toList]

namespace Given

variable {given : Given} {environment : Environment}

theorem text?_of_gives (gives : environment.Gives given) (setting : Setting) :
    environment.text? setting.variableName = given.text? setting := by
  have isSet := gives setting
  cases isGiven : given.text? setting with
  | none =>
    rw [isGiven] at isSet
    rw [Environment.text?, isSet]
    rfl
  | some text =>
    rw [isGiven] at isSet
    exact Environment.text?_eq_some_iff.mpr isSet

theorem means_decimal {α : Type} {toNat : α → Nat} (default : α) (value : Option α) :
    Environment.Means (Environment.MeansNumber toNat) default
      (value.map fun value => Text.decimal (toNat value)) (value.getD default) := by
  cases value with
  | none => rfl
  | some value =>
    have digits : Text.trim (Text.decimal (toNat value)) = Text.decimal (toNat value) := by
      apply Text.trim_eq_self
      intro c among
      rw [Text.decimal, String.toList_ofList] at among
      apply Yaml.of_isDigit _ (Nat.isDigit_of_mem_toDigits (by decide) (by decide) among)
      decide
    change Text.Spells (Text.trim (Text.decimal (toNat value))) (toNat value)
    rw [digits]
    exact Text.spells_decimal (toNat value)

theorem means_scheme (default : Protocol) (protocol : Option Protocol) :
    Environment.Means Environment.MeansProtocol default (protocol.map Protocol.scheme)
      (protocol.getD default) := by
  cases protocol with
  | none => rfl
  | some protocol =>
    change Text.trim protocol.scheme = protocol.scheme
    cases protocol <;> decide

theorem settings_follow (gives : environment.Gives given) : given.settings.Follow environment where
  each := by
    intro setting
    rw [text?_of_gives gives]
    cases setting with
    | hostname => rfl
    | port => exact means_decimal 443 given.port
    | protocol => exact means_scheme .https given.protocol
    | healthPath => rfl
    | refreshPeriod => exact means_decimal 300 given.refreshPeriod
    | probePeriod => exact means_decimal 30 given.probePeriod
    | readTimeout => exact means_decimal 5000 given.readTimeout
    | connectTimeout => exact means_decimal 10000 given.connectTimeout
    | caFile => rfl
  bundledRoots := rfl
  failureThreshold := rfl
  resolver := rfl
  cache := rfl
  edits := rfl

theorem ofSurroundings_eq (gives : environment.Gives given) :
    Settings.ofSurroundings environment none = given.settings.validated := by
  apply Settings.ofSurroundings_of_ok
  exact Settings.ofEnvironment_eq_ok_iff.mpr (settings_follow gives)

end Given

/-! ## In a file -/

namespace Setting

/-- The field of a file that gives the setting. The file of certificates is a field of a mapping in
the field named here. -/
def fieldName : Setting → String
  | hostname => "hostname"
  | port => "port"
  | protocol => "protocol"
  | healthPath => "health_path"
  | refreshPeriod => "dns_refresh_period_secs"
  | probePeriod => "health_check_period_secs"
  | readTimeout => "health_read_timeout_ms"
  | connectTimeout => "connect_timeout_ms"
  | caFile => "tls"

/-- A node gives the text of a setting. Texts may be written in any style, as long as a plain one
does not stand for nothing where that has a meaning, and numbers are plain. -/
def IsWritten (setting : Setting) (text : String) (node : Document) : Prop :=
  match setting with
  | hostname | protocol | healthPath => ∃ style, node = .scalar none style text
  | caFile =>
    ∃ nameStyle style,
      node = .mapping none [(.scalar none nameStyle "ca_file", .scalar none style text)] ∧
        (style = .plain → text ≠ "" ∧ Yaml.isNull text = false)
  | _ => node = .scalar none .plain text

theorem fieldName_injective : Function.Injective fieldName := by
  intro setting other same
  cases setting <;> cases other <;> first | rfl | exact absurd same (by decide)

end Setting

/-- A tree is a mapping of the settings that are given and of nothing else, in some order. -/
structure Given.Holds (given : Given) (source : Source) (order : List Setting)
    (name value : Setting → Document) : Prop where
  root : source.root = .mapping none (order.map fun setting => (name setting, value setting))
  once : order.Nodup
  mem_order : ∀ setting, setting ∈ order ↔ ∃ text, given.text? setting = some text
  named : ∀ setting ∈ order, ∃ style, name setting = .scalar none style setting.fieldName
  written : ∀ setting text, given.text? setting = some text →
    setting.IsWritten text (value setting)

/-- A text gives the settings that are given and nothing else. -/
def Given.WrittenIn (given : Given) (text : String) : Prop :=
  ∃ source order name value, Yaml.read? text = some source ∧ given.Holds source order name value

namespace Given.Holds

variable {given : Given} {source : Source} {order : List Setting} {name value : Setting → Document}

/-- The entries of the mapping. -/
def entries (order : List Setting) (value : Setting → Document) : List (String × Document) :=
  order.map fun setting => (setting.fieldName, value setting)

theorem entries?_eq (holds : given.Holds source order name value) :
    source.entries? source.root = some (entries order value) := by
  rw [holds.root, Source.entries?]
  dsimp only [Source.follow, bind, Option.bind]
  rw [List.mapM_map]
  apply Yaml.mapM_eq_some_map
  intro setting among
  obtain ⟨style, isName⟩ := holds.named setting among
  simp [isName]

theorem field?_eq {α : Type} (holds : given.Holds source order name value) (setting : Setting)
    {read? : Document → Option α} {default : Option α} {result : α}
    (reads : ∀ text, given.text? setting = some text → read? (value setting) = some result)
    (otherwise : given.text? setting = none → default = some result) :
    Settings.field? (entries order value) setting.fieldName read? default = some result := by
  have same : (fun entry : String × Document => decide (entry.1 = setting.fieldName)) ∘
      (fun setting : Setting => (setting.fieldName, value setting)) =
        fun other => decide (other = setting) := by
    funext other
    simp [Setting.fieldName_injective.eq_iff]
  rw [Settings.field?, entries, List.filter_map, same, List.filter_eq, holds.once.count]
  split_ifs with given
  · obtain ⟨text, isGiven⟩ := (holds.mem_order setting).mp given
    exact reads text isGiven
  · apply otherwise
    apply Option.eq_none_iff_forall_ne_some.mpr
    intro text isGiven
    exact given ((holds.mem_order setting).mpr ⟨text, isGiven⟩)

theorem field?_default {α : Type} {field : String}
    (other : ∀ setting, Setting.fieldName setting ≠ field) {read? : Document → Option α}
    {default : Option α} :
    Settings.field? (entries order value) field read? default = default := by
  have none : (entries order value).filter (·.1 = field) = [] := by
    simp [entries, List.filter_eq_nil_iff, other]
  rw [Settings.field?, none]

theorem uint64_field (holds : given.Holds source order name value) (setting : Setting)
    (default : UInt64) {given? : Option UInt64}
    (isText : given.text? setting = given?.map fun value => Text.decimal value.toNat)
    (isPlain : ∀ text node, setting.IsWritten text node → node = .scalar none .plain text) :
    Settings.field? (entries order value) setting.fieldName source.uint64? (some default) =
      some (given?.getD default) := by
  apply holds.field?_eq
  · intro text isGiven
    have node := isPlain _ _ (holds.written _ _ isGiven)
    rw [isText, Option.map_eq_some_iff] at isGiven
    obtain ⟨number, isNumber, rfl⟩ := isGiven
    rw [node, isNumber]
    exact source.uint64?_decimal number
  · intro notGiven
    rw [isText, Option.map_eq_none_iff] at notGiven
    rw [notGiven]
    rfl

theorem port_field (holds : given.Holds source order name value) (default : UInt16) :
    Settings.field? (entries order value) "port" (source.natural? UInt16.size)
        (some default.toNat) =
      some (given.port.getD default).toNat := by
  apply holds.field?_eq .port
  · intro text isGiven
    have node : value .port = .scalar none .plain text := holds.written _ _ isGiven
    obtain ⟨port, isPort, rfl⟩ := Option.map_eq_some_iff.mp isGiven
    rw [node, isPort]
    exact source.natural?_decimal port.toNat_lt
  · intro notGiven
    rw [Option.map_eq_none_iff.mp notGiven]
    rfl

theorem hostname_field (holds : given.Holds source order name value) {default : Option String} :
    Settings.field? (entries order value) "hostname" source.text? default =
      some given.hostname := by
  apply holds.field?_eq .hostname
  · intro text isGiven
    obtain ⟨style, node⟩ : ∃ style, value .hostname = .scalar none style text :=
      holds.written _ _ isGiven
    rw [node, Option.some.inj isGiven]
    rfl
  · intro notGiven
    contradiction

theorem healthPath_field (holds : given.Holds source order name value) {default : String} :
    Settings.field? (entries order value) "health_path" source.text? (some default) =
      some (given.healthPath.getD default) := by
  apply holds.field?_eq .healthPath
  · intro text isGiven
    obtain ⟨style, node⟩ : ∃ style, value .healthPath = .scalar none style text :=
      holds.written _ _ isGiven
    have isPath : given.healthPath = some text := isGiven
    rw [node, isPath]
    rfl
  · intro notGiven
    have noPath : given.healthPath = none := notGiven
    rw [noPath]
    rfl

theorem protocol_field (holds : given.Holds source order name value) {default : Protocol} :
    Settings.field? (entries order value) "protocol" (Protocol.ofDocument? source) (some default) =
      some (given.protocol.getD default) := by
  apply holds.field?_eq .protocol
  · intro text isGiven
    obtain ⟨style, node⟩ : ∃ style, value .protocol = .scalar none style text :=
      holds.written _ _ isGiven
    obtain ⟨protocol, isProtocol, rfl⟩ := Option.map_eq_some_iff.mp isGiven
    rw [node, isProtocol]
    exact Protocol.parse?_eq_some_iff.mpr rfl
  · intro notGiven
    rw [Option.map_eq_none_iff.mp notGiven]
    rfl

theorem trust_field (holds : given.Holds source order name value) :
    Settings.field? (entries order value) "tls" (TrustSettings.ofDocument? source) (some {}) =
      some { caFile := given.caFile } := by
  apply holds.field?_eq .caFile
  · intro text isGiven
    obtain ⟨nameStyle, style, node, notNothing⟩ := holds.written _ _ isGiven
    have isFile : given.caFile = some text := isGiven
    rw [node, isFile]
    have file : source.optionalText? (.scalar none style text) = some (some text) := by
      cases style with
      | plain => simp [Source.optionalText?, Source.follow, notNothing]
      | literal => rfl
      | quoted => rfl
    simp [TrustSettings.ofDocument?, Source.entries?, Source.follow, Settings.field?, file]
  · intro notGiven
    have noFile : given.caFile = none := notGiven
    rw [noFile]

theorem ofSource?_eq (holds : given.Holds source order name value) :
    Settings.ofSource? source = some given.settings := by
  have port : Settings.field? (entries order value) "port" (source.natural? UInt16.size)
      (some 443) = _ := holds.port_field 443
  have refreshPeriod : Settings.field? (entries order value) "dns_refresh_period_secs"
      source.uint64? (some 300) = _ :=
    holds.uint64_field .refreshPeriod 300 rfl fun _ _ node => node
  have probePeriod : Settings.field? (entries order value) "health_check_period_secs"
      source.uint64? (some 30) = _ :=
    holds.uint64_field .probePeriod 30 rfl fun _ _ node => node
  have readTimeout : Settings.field? (entries order value) "health_read_timeout_ms"
      source.uint64? (some 5000) = _ :=
    holds.uint64_field .readTimeout 5000 rfl fun _ _ node => node
  have connectTimeout : Settings.field? (entries order value) "connect_timeout_ms"
      source.uint64? (some 10000) = _ :=
    holds.uint64_field .connectTimeout 10000 rfl fun _ _ node => node
  have noThreshold (setting : Setting) :
      setting.fieldName ≠ "failure_response_count_threshold" := by
    cases setting <;> decide
  have noResolver (setting : Setting) : setting.fieldName ≠ "resolver" := by
    cases setting <;> decide
  have noCache (setting : Setting) : setting.fieldName ≠ "connection_cache" := by
    cases setting <;> decide
  unfold Settings.ofSource?
  rw [holds.entries?_eq]
  simp [holds.hostname_field, port, holds.healthPath_field, holds.protocol_field,
    holds.trust_field, refreshPeriod, probePeriod, readTimeout, connectTimeout,
    field?_default noThreshold, field?_default noResolver, field?_default noCache]
  rfl

end Given.Holds

theorem Given.ofFile_eq {given : Given} {text : String} (isWritten : given.WrittenIn text)
    (path : String) :
    Settings.ofFile path (some (Text.encode text)) = given.settings.validated := by
  obtain ⟨source, order, name, value, reads, holds⟩ := isWritten
  have decodes : Text.decode? (Text.encode text) = some text := Text.decode?_eq_some_iff.mpr rfl
  simp [Settings.ofFile, decodes, Settings.ofYaml, reads, holds.ofSource?_eq]

/-! ## A file for every choice -/

namespace Setting

/-- The form of a setting on one line. -/
def inline (setting : Setting) (settings : Settings) : Inline :=
  match setting with
  | hostname => .text settings.hostname
  | port => .number settings.port.toNat
  | protocol => .text settings.protocol.scheme
  | healthPath => .text settings.healthPath
  | refreshPeriod => .number settings.refreshPeriod.toNat
  | probePeriod => .number settings.probePeriod.toNat
  | readTimeout => .number settings.readTimeout.toNat
  | connectTimeout => .number settings.connectTimeout.toNat
  | caFile => .mapping ⟨"ca_file", .text (settings.trust.caFile.getD ""), by decide⟩ []

/-- The field of a setting on one line. -/
def entry (setting : Setting) (settings : Settings) : Inline.Entry where
  name := setting.fieldName
  value := setting.inline settings
  short := by cases setting <;> decide

/-- The settings that can be left out. -/
def others : List Setting :=
  [port, protocol, healthPath, refreshPeriod, probePeriod, readTimeout, connectTimeout, caFile]

theorem mem_hostname_others (setting : Setting) : setting ∈ hostname :: others := by
  cases setting <;> decide

end Setting

namespace Given

variable {given : Given}

/-- The settings that are given besides the hostname. -/
def others (given : Given) : List Setting :=
  Setting.others.filter fun setting => (given.text? setting).isSome

/-- A text that gives these settings, on one line. -/
def document (given : Given) : String :=
  let entry (setting : Setting) := setting.entry given.settings
  String.ofList (Inline.mapping (entry .hostname) (given.others.map entry)).chars

theorem natural_written {text : String} {value : Option UInt64} (default : UInt64)
    (isText : value.map (fun value => Text.decimal value.toNat) = some text) :
    Document.natural (value.getD default).toNat = .scalar none .plain text := by
  obtain ⟨value, rfl, rfl⟩ := Option.map_eq_some_iff.mp isText
  rfl

theorem isWritten_inline {setting : Setting} {text : String}
    (isGiven : given.text? setting = some text) :
    setting.IsWritten text (setting.inline given.settings).document := by
  cases setting with
  | hostname =>
    cases isGiven
    exact ⟨.quoted, rfl⟩
  | port =>
    obtain ⟨port, isPort, rfl⟩ := Option.map_eq_some_iff.mp isGiven
    change Document.natural (given.port.getD 443).toNat = _
    rw [isPort]
    rfl
  | protocol =>
    obtain ⟨protocol, isProtocol, rfl⟩ := Option.map_eq_some_iff.mp isGiven
    change ∃ style, Document.text (given.protocol.getD .https).scheme = _
    rw [isProtocol]
    exact ⟨.quoted, rfl⟩
  | healthPath =>
    have isPath : given.healthPath = some text := isGiven
    change ∃ style, Document.text (given.healthPath.getD "") = _
    rw [isPath]
    exact ⟨.quoted, rfl⟩
  | refreshPeriod => exact natural_written 300 isGiven
  | probePeriod => exact natural_written 30 isGiven
  | readTimeout => exact natural_written 5000 isGiven
  | connectTimeout => exact natural_written 10000 isGiven
  | caFile =>
    have isFile : given.caFile = some text := isGiven
    refine ⟨.quoted, .quoted, ?_, by simp⟩
    change Document.mapping none [(.text "ca_file", .text (given.caFile.getD ""))] = _
    rw [isFile]
    rfl

theorem writtenIn_document (given : Given) : given.WrittenIn given.document := by
  refine ⟨_, .hostname :: given.others, fun setting => .text setting.fieldName,
    fun setting => (setting.inline given.settings).document, Inline.read?_mapping _ _, ?_⟩
  constructor
  case root =>
    simp only [Inline.mapping, List.map_cons, List.map_map]
    rfl
  case once =>
    rw [List.nodup_cons]
    constructor
    · intro among
      exact absurd (List.mem_of_mem_filter among) (by decide)
    · exact List.filter_sublist.nodup (by decide)
  case mem_order =>
    intro setting
    rw [List.mem_cons, others, List.mem_filter, Option.isSome_iff_exists]
    constructor
    · rintro (rfl | ⟨-, isGiven⟩)
      · exact ⟨_, rfl⟩
      · exact isGiven
    · intro isGiven
      rcases List.mem_cons.mp setting.mem_hostname_others with isHostname | isOther
      · exact .inl isHostname
      · exact .inr ⟨isOther, isGiven⟩
  case named => exact fun _ _ => ⟨.quoted, rfl⟩
  case written => exact fun _ _ isGiven => isWritten_inline isGiven

end Given

/-! ## Agreement -/

namespace Settings

/-- Whatever is given, by a file that gives just that and by an environment that gives just that,
the same settings are loaded: those that are given, with the defaults of the others. Or validation
refuses them, in both cases for the same reason. There is such a file for any choice. -/
theorem file_and_environment_agree (given : Given) (environment : Environment)
    (gives : environment.Gives given) :
    given.WrittenIn given.document ∧
      ∀ path text, given.WrittenIn text →
        ofFile path (some (Text.encode text)) = ofSurroundings environment none ∧
          ofSurroundings environment none = given.settings.validated := by
  constructor
  · exact given.writtenIn_document
  · intro path text isWritten
    have loaded := Given.ofSurroundings_eq gives
    rw [Given.ofFile_eq isWritten path, loaded]
    exact ⟨rfl, rfl⟩

/-- A hostname, a port and a file of certificates. -/
def fewGiven : Given :=
  { hostname := "api.example.com", port := some 8443, caFile := some "/etc/ca é.pem" }

/-- The same in an environment. -/
def fewVariables : Environment :=
  ⟨[("HOSTPOOL_CA_FILE", Text.encode "/etc/ca é.pem"), ("HOSTPOOL_PORT", Text.encode "8443"),
    ("HOSTPOOL_HOSTNAME", Text.encode "api.example.com")]⟩

/-- What is written between quotes stands for the characters that could not be left as they are. -/
theorem file_and_environment_agree_few :
    fewGiven.document =
        "\x7b\"hostname\":\"api.example.com\",\"port\":8443,\"tls\":" ++
          "\x7b\"ca_file\":\"/etc/ca\\U00000020\\U000000e9.pem\"\x7d\x7d" ∧
      ofFile "hostpool.yaml" (some (Text.encode fewGiven.document)) =
        ofSurroundings fewVariables none ∧
      ofSurroundings fewVariables none = fewGiven.settings.validated := by
  have gives : fewVariables.Gives fewGiven := by
    intro setting
    cases setting <;> decide +kernel
  obtain ⟨isWritten, agree⟩ := file_and_environment_agree fewGiven fewVariables gives
  exact ⟨by decide +kernel, agree "hostpool.yaml" fewGiven.document isWritten⟩

end Settings

end OneHost
