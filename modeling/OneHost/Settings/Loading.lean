import OneHost.Settings.EnvironmentFile
import OneHost.Settings.Reading

/-!
# Loading settings

Settings come from a file or, if no file is named, from the environment. Whatever has been read is
validated before it is used.
-/

namespace OneHost

/-- Why settings cannot be loaded. -/
inductive LoadError where
  | unreadable (path : String)
  | notYaml
  | environment (error : EnvironmentError)
  | refused (error : SettingsError)
  deriving DecidableEq

namespace LoadError

/-- The text of the failure, followed by that of its cause and so on, as far as they are this
library's. -/
def messages : LoadError → List String
  | unreadable path => ["Failed to read config file: " ++ Text.quoteName (Text.encode path)]
  | notYaml => ["Failed to parse YAML configuration"]
  | environment error => error.messages
  | refused error => ["Invalid configuration", error.message]

/-- The text of the failure with those of its causes. -/
def message (error : LoadError) : String :=
  ": ".intercalate error.messages

end LoadError

namespace Settings

/-- Settings, if they are valid. -/
def validated (settings : Settings) : Except LoadError Settings :=
  match settings.validate with
  | .ok () => .ok settings
  | .error error => .error (.refused error)

/-- The settings that a text holds. -/
def ofYaml (text : String) : Except LoadError Settings :=
  match (Yaml.read? text).bind ofSource? with
  | some settings => settings.validated
  | none => .error .notYaml

/-- The settings in a file, given what the file consists of, if it can be read. -/
def ofFile (path : String) (content : Option Bytes) : Except LoadError Settings :=
  match content.bind Text.decode? with
  | some text => ofYaml text
  | none => .error (.unreadable path)

/-- The settings in an environment and in the file that adds to it, if there is one. -/
def ofSurroundings (environment : Environment) (file : Option String) : Except LoadError Settings :=
  match ofEnvironment (file.elim environment environment.addFile) with
  | .ok settings => settings.validated
  | .error error => .error (.environment error)

end Settings

end OneHost
