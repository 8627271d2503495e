import JsonQuery.Fault
import JsonQuery.Sorting.Basic
import JsonQuery.Yaml.Reader

/-!
Settings of the program in four sections. A section is given as a mapping of settings by
name; a name that the section does not have is refused, and a setting that is not given
has its default. Values are taken as they are and judged only where they are used.
-/

namespace JsonQuery

/-- Settings of the requests for data. -/
structure FetchSettings where
  timeoutSeconds : Value
  userAgent : Value
  allowedSchemes : Value
  blockedHosts : Value
  historySize : Value

/-- Settings of queries. -/
structure QuerySettings where
  enableAggregates : Value
  tableName : Value

/-- Settings of exports. -/
structure ExportSettings where
  filenamePrefix : Value
  jsonIndent : Value

/-- Settings of the log. -/
structure LogSettings where
  level : Value
  structured : Value
  logFile : Value

/-- All settings. -/
structure Settings where
  fetch : FetchSettings
  query : QuerySettings
  exports : ExportSettings
  logging : LogSettings

/-- Beginnings of the names of hosts that are not public. -/
def defaultBlockedHosts : List String :=
  ["localhost", "127.0.0.1", "0.0.0.0", "::1", "10.", "172.", "192.168.", "169.254."]

namespace FetchSettings

/-- The settings by name, in order. -/
def toRecord (s : FetchSettings) : Record := [
  ("timeout_seconds", s.timeoutSeconds), ("user_agent", s.userAgent),
  ("allowed_schemes", s.allowedSchemes), ("blocked_hosts", s.blockedHosts),
  ("history_size", s.historySize)]

/-- The settings found in a record. -/
def ofRecord (r : Record) : FetchSettings :=
  ⟨r.get "timeout_seconds", r.get "user_agent", r.get "allowed_schemes",
    r.get "blocked_hosts", r.get "history_size"⟩

/-- The settings when nothing is given. -/
def default : FetchSettings := {
  timeoutSeconds := Value.ofFloat ((Binary64.ofInt? 10).getD .zero)
  userAgent := .string "API-Data-Playground/1.0"
  allowedSchemes := .array [.string "http", .string "https"]
  blockedHosts := .array (defaultBlockedHosts.map .string)
  historySize := Value.ofInt 5 }

end FetchSettings

namespace QuerySettings

/-- The settings by name, in order. -/
def toRecord (s : QuerySettings) : Record := [
  ("enable_aggregates", s.enableAggregates), ("table_name", s.tableName)]

/-- The settings found in a record. -/
def ofRecord (r : Record) : QuerySettings := ⟨r.get "enable_aggregates", r.get "table_name"⟩

/-- The settings when nothing is given. -/
def default : QuerySettings := ⟨.bool false, .string "data"⟩

end QuerySettings

namespace ExportSettings

/-- The settings by name, in order. -/
def toRecord (s : ExportSettings) : Record := [
  ("filename_prefix", s.filenamePrefix), ("json_indent", s.jsonIndent)]

/-- The settings found in a record. -/
def ofRecord (r : Record) : ExportSettings := ⟨r.get "filename_prefix", r.get "json_indent"⟩

/-- The settings when nothing is given. -/
def default : ExportSettings := ⟨.string "api-data", Value.ofInt 2⟩

end ExportSettings

namespace LogSettings

/-- The settings by name, in order. -/
def toRecord (s : LogSettings) : Record := [
  ("level", s.level), ("structured", s.structured), ("log_file", s.logFile)]

/-- The settings found in a record. -/
def ofRecord (r : Record) : LogSettings := ⟨r.get "level", r.get "structured", r.get "log_file"⟩

/-- The settings when nothing is given. -/
def default : LogSettings := ⟨.string "INFO", .bool false, .null⟩

end LogSettings

/-- The settings when nothing is given. -/
def Settings.default : Settings :=
  ⟨FetchSettings.default, QuerySettings.default, ExportSettings.default, LogSettings.default⟩

/-- The settings by section and name, in order. -/
def Settings.toRecord (s : Settings) : Record := [
  ("fetch", .object s.fetch.toRecord), ("query", .object s.query.toRecord),
  ("export", .object s.exports.toRecord), ("logging", .object s.logging.toRecord)]

/-- The names of the sections. -/
inductive Section where
  | fetch
  | query
  | exports
  | logging
  deriving DecidableEq, Repr

namespace Section

/-- All sections, in order. -/
def all : List Section := [.fetch, .query, .exports, .logging]

/-- The name of a section. -/
def name : Section → String
  | .fetch => "fetch"
  | .query => "query"
  | .exports => "export"
  | .logging => "logging"

/-- The settings of a section when nothing is given. -/
def defaults : Section → Record
  | .fetch => FetchSettings.default.toRecord
  | .query => QuerySettings.default.toRecord
  | .exports => ExportSettings.default.toRecord
  | .logging => LogSettings.default.toRecord

/-- Order of keys that a section does not know: numbers among themselves, texts, moments and
bytes among themselves, and nothing else. -/
def keyBefore (a b : YamlScalar) : Except Fault Bool :=
  match a.number?, b.number? with
  | some m, some n => .ok (m.less n)
  | _, _ =>
      match a, b with
      | .value (.string s), .value (.string t) => .ok (Text.compareText s t == .lt)
      | .day s, .day t => .ok (Text.compareText s t == .lt)
      | .time s, .time t => .ok (Text.compareText s t == .lt)
      | .bytes s, .bytes t => .ok (decide (s < t))
      | _, _ => .error (.wrongKind ("'<' not supported between instances of '" ++ a.kindWord ++
          "' and '" ++ b.kindWord ++ "'"))

/-- Refuses keys that the section does not know. They are told in order, which takes keys
that can be told and ordered. -/
def refuse (sec : Section) (unknown : List YamlScalar) : Fault :=
  match Sorting.sort keyBefore unknown with
  | .error fault => fault
  | .ok sorted =>
      match sorted.findIdx? fun key => key.text?.isNone with
      | none => .unknownSettings sec.name (sorted.filterMap YamlScalar.text?)
      | some place => .wrongKind (s!"sequence item {place}: expected str instance, " ++
          ((sorted[place]?.map YamlScalar.kindWord).getD "") ++ " found")

/-- Whether a key names a setting of the section. -/
def knows (sec : Section) (key : YamlScalar) : Bool := key.text?.any sec.defaults.hasKey

/-- The settings of a section of which some are given. Nothing given at all means the
defaults. -/
def build (sec : Section) (given : Yaml) : Except Fault Record :=
  match given with
  | .scalar (.value .null) => .ok sec.defaults
  | .mapping entries =>
      let unknown := (entries.map (·.1)).filter fun key => !sec.knows key
      if unknown.isEmpty then
        .ok (sec.defaults.putAll (entries.filterMap fun (key, value) =>
          key.text?.map fun name => (name, value.toValue)))
      else .error (sec.refuse unknown)
  | _ => .error (.sectionNotMapping sec.name)

end Section

/-- The settings of requests of which some are given. -/
def FetchSettings.build (given : Yaml) : Except Fault FetchSettings :=
  (Section.fetch.build given).map FetchSettings.ofRecord

/-- The settings of queries of which some are given. -/
def QuerySettings.build (given : Yaml) : Except Fault QuerySettings :=
  (Section.query.build given).map QuerySettings.ofRecord

/-- The settings of exports of which some are given. -/
def ExportSettings.build (given : Yaml) : Except Fault ExportSettings :=
  (Section.exports.build given).map ExportSettings.ofRecord

/-- The settings of the log of which some are given. -/
def LogSettings.build (given : Yaml) : Except Fault LogSettings :=
  (Section.logging.build given).map LogSettings.ofRecord

/-- The settings whose sections are found by name. The first section in order that is
refused decides. -/
def Settings.build (section? : Section → Yaml) : Except Fault Settings := do
  return ⟨← FetchSettings.build (section? .fetch), ← QuerySettings.build (section? .query),
    ← ExportSettings.build (section? .exports), ← LogSettings.build (section? .logging)⟩

/-- The settings in the data of a document. Entries that are no section mean nothing. -/
def Settings.ofYaml (document : Yaml) : Except Fault Settings :=
  match document with
  | .scalar (.value .null) => .ok .default
  | .mapping entries => Settings.build fun sec => Yaml.member entries sec.name
  | _ => .error .settingsNotMapping

/-- The settings in the text of a file, if there is one at a path. -/
def Settings.ofFile (path : String) (text? : Option String) : Except Fault Settings := do
  match text? with
  | none => .error (.noSettingsFile path)
  | some text => Settings.ofYaml (← Yaml.read (Section.all.map Section.name) text)

end JsonQuery
