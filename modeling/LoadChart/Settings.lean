import LoadChart.Json.Value
import LoadChart.Service.Decoding
import LoadChart.Text.Letters

/-!
# Settings

What the program is told at its start, and the form in which it is kept in a file.  A field that a
file does not hold has its standard value.
-/

namespace LoadChart

/-- What the program is told at its start. -/
structure Settings where
  serviceAddress : String
  /-- The program whose resources are shown; nothing is fetched without one. -/
  program : Option Identifier
  scale : Scale
  /-- The length of the first range. -/
  rangeDays : Nat
  timeoutSeconds : Nat
  logFilter : String
deriving DecidableEq

/-- Why settings cannot be used. -/
inductive SettingsError where
  | readFile
  | writeFile
  | parse
  | invalidValue (field reason : String)
deriving DecidableEq

namespace SettingsError

/-- The text shown for a value that cannot be used. -/
def invalidText (field reason : String) : String := "invalid setting `" ++ field ++ "`: " ++ reason

end SettingsError

namespace Settings

def standard : Settings :=
  { serviceAddress := "http://localhost:8080/api/v1"
    program := none
    scale := .days
    rangeDays := 28
    timeoutSeconds := 30
    logFilter := "info,resource_gantt=debug" }

def fields : List Json.Field :=
  [.spare "api_base_url", .spare "program_id", .spare "default_scale", .spare "default_range_days",
    .spare "request_timeout_secs", .spare "log_filter"]

def members (settings : Settings) : List (String × Json) :=
  [("api_base_url", .string settings.serviceAddress),
    ("program_id", (settings.program.map fun program => Json.string program.text).getD .null),
    ("default_scale", .string settings.scale.word),
    ("default_range_days", .integer settings.rangeDays),
    ("request_timeout_secs", .integer settings.timeoutSeconds),
    ("log_filter", .string settings.logFilter)]

def json (settings : Settings) : Json := .object settings.members

def ofJson? (value : Json) : Option Settings := do
  let record ← value.record? fields
  let serviceAddress ← record.defaulted? "api_base_url" standard.serviceAddress Json.string?
  let program ← record.optional? "program_id" Json.identifier?
  let scale ← record.defaulted? "default_scale" standard.scale Json.scale?
  let rangeDays ← record.defaulted? "default_range_days" standard.rangeDays Json.natural32?
  let timeoutSeconds ← record.defaulted? "request_timeout_secs" standard.timeoutSeconds
    Json.natural64?
  let logFilter ← record.defaulted? "log_filter" standard.logFilter Json.string?
  return { serviceAddress, program, scale, rangeDays, timeoutSeconds, logFilter }

def ofText? (text : String) : Option Settings := (Json.ofText? text).bind ofJson?

def text (settings : Settings) : String := settings.json.indentedText

def addressVariable : String := "RESOURCE_GANTT_API_URL"

def programVariable : String := "RESOURCE_GANTT_PROGRAM_ID"

/-- Settings with the variables of the environment in place of their own values.  A blank address
and a program that is no identifier are passed over. -/
def override (settings : Settings) (lookUp : String → Option String) : Settings :=
  let serviceAddress :=
    match lookUp addressVariable with
    | some value => if (trimText value).isEmpty then settings.serviceAddress else trimText value
    | none => settings.serviceAddress
  let program :=
    match (lookUp programVariable).bind fun value => Identifier.ofText? (trimText value) with
    | some program => some program
    | none => settings.program
  { settings with serviceAddress, program }

def hasScheme (address : String) : Bool :=
  "http://".toList.isPrefixOf address.toList || "https://".toList.isPrefixOf address.toList

/-- The first value that cannot be used, if any. -/
def problem? (settings : Settings) : Option SettingsError :=
  let address := trimText settings.serviceAddress
  if !hasScheme address then
    some (.invalidValue "api_base_url"
      ("`" ++ address ++ "` must start with http:// or https://"))
  else if settings.rangeDays = 0 then
    some (.invalidValue "default_range_days" "must be at least 1")
  else if settings.timeoutSeconds = 0 then
    some (.invalidValue "request_timeout_secs" "must be at least 1")
  else none

theorem problem?_eq_none {settings : Settings} :
    settings.problem? = none ↔
      hasScheme (trimText settings.serviceAddress) = true ∧ 0 < settings.rangeDays ∧
        0 < settings.timeoutSeconds := by
  rw [problem?, Nat.pos_iff_ne_zero, Nat.pos_iff_ne_zero]
  cases hasScheme (trimText settings.serviceAddress) with
  | false => simp
  | true =>
      by_cases days : settings.rangeDays = 0 <;> by_cases seconds : settings.timeoutSeconds = 0 <;>
        simp [days, seconds]

/-- The range that the program shows first, unless it leaves the calendar. -/
def firstRange? (settings : Settings) (today : Day) : Option DayRange := do
  let last ← today.plus? (max settings.rangeDays 1 - 1)
  DayRange.of? today last

end Settings

/-- What stands at the place of the settings file. -/
inductive StoredSettings where
  | missing
  | text (content : String)
  /-- A file whose bytes are no text. -/
  | unreadable

/-- The place of the settings file. -/
structure SettingsStore where
  stored : StoredSettings
  isWritable : Bool

namespace SettingsStore

/-- The directory of the settings file: under the configuration directory if that is an absolute
path, else under the home directory. -/
def directory (configuration? : Option String) (home : String) : String :=
  match configuration? with
  | some configuration =>
      if configuration.toList.head? = some '/' then configuration ++ "/resourcegantt"
      else home ++ "/.config/resourcegantt"
  | none => home ++ "/.config/resourcegantt"

def path (directory : String) : String := directory ++ "/settings.json"

/-- Writes settings, unless the place cannot be written. -/
def save (store : SettingsStore) (settings : Settings) : Except SettingsError SettingsStore :=
  if store.isWritable then .ok { store with stored := .text settings.text } else .error .writeFile

/-- Reads settings from a file that must exist. -/
def load (store : SettingsStore) : Except SettingsError Settings :=
  match store.stored with
  | .text content =>
      match Settings.ofText? content with
      | some settings => .ok settings
      | none => .error .parse
  | _ => .error .readFile

/-- Reads settings, or writes the standard ones where there is no file.  A place that cannot be
written is no reason to fail. -/
def loadOrCreate (store : SettingsStore) : Except SettingsError Settings × SettingsStore :=
  match store.stored with
  | .missing =>
      match store.save .standard with
      | .ok store => (.ok .standard, store)
      | .error _ => (.ok .standard, store)
  | _ => (store.load, store)

/-- Reads settings at the start of the program, with the variables of the environment, and checks
them. -/
def loadAtStart (store : SettingsStore) (lookUp : String → Option String) :
    Except SettingsError Settings × SettingsStore :=
  let (loaded, store) := store.loadOrCreate
  match loaded with
  | .error problem => (.error problem, store)
  | .ok settings =>
      let settings := settings.override lookUp
      match settings.problem? with
      | some problem => (.error problem, store)
      | none => (.ok settings, store)

end SettingsStore

end LoadChart
