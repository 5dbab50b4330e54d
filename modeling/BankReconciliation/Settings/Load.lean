import BankReconciliation.Error
import BankReconciliation.Settings.DotEnv
import BankReconciliation.Settings.Toml.Reader
import BankReconciliation.Worker

/-! The settings of the service, from environment variables, a file of variables and a configuration
file. -/

namespace BankReconciliation

structure DatabaseSettings where
  url : String
  maxConnections : Nat
  minConnections : Nat
deriving DecidableEq

structure Topics where
  importSummary : String
  ledgerStatus : String
deriving DecidableEq

structure Settings where
  port : Nat
  host : String
  serviceName : String
  serviceVersion : String
  logLevel : String
  otlpEndpoint : Option String
  database : DatabaseSettings
  worker : WorkerSettings
  topics : Topics
deriving DecidableEq

namespace Settings

def defaultPort : Nat := 8080
def defaultHost : String := "0.0.0.0"
def defaultName : String := "bank-statement-service"
def version : String := "0.1.0"

abbrev SourceFiles := List (String × String)

def ofJsonValue : Json → SettingValue
  | .null => .unit
  | .bool b => .bool b
  | .int n =>
    if n < twoTo 63 then .whole n else .float false ((Binary64.nearest? n.toNat 1).getD .zero)
  | .real negative magnitude => .float negative magnitude
  | .str s => .text s
  | .arr _ => .sequence
  | .obj _ => .table

def jsonName : String := "configuration.json"
def tomlName : String := "configuration.toml"

/-- An entry of a file. A table is built up from its parts, so it was set nowhere itself. -/
def fileEntry (file key : String) (value : SettingValue) : String × Setting :=
  (Setting.asciiLower key, ⟨value, if value = .table then none else some file⟩)

def jsonEntries (content : String) : Except SettingsFault (List (String × Setting)) :=
  match Json.parse content with
  | .error e => .error (.json e)
  | .ok (.obj members) => .ok (members.map fun (key, v) => fileEntry jsonName key (ofJsonValue v))
  | .ok other => .error (.notTable (ofJsonValue other).found jsonName)

def tomlEntries (content : String) : Except SettingsFault (List (String × Setting)) :=
  match Toml.parse content with
  | .error text => .error (.toml text)
  | .ok entries => .ok (entries.map fun (key, v) => fileEntry tomlName key v)

def fileEntries (files : SourceFiles) : Except SettingsProblem (List (String × Setting)) :=
  match files.lookup tomlName, files.lookup jsonName with
  | some content, _ => (tomlEntries content).mapError (.unreadable · tomlName)
  | none, some content => (jsonEntries content).mapError (.unreadable · jsonName)
  | none, none => .ok []

def variableMark : List Char := "app__".toList

def dotted : List Char → List Char
  | '_' :: '_' :: cs => '.' :: dotted cs
  | c :: cs => c :: dotted cs
  | [] => []

/-- The lower case of a character of a name. The Kelvin sign is a capital `k`; the other letters
beyond ASCII do not become characters of a key. -/
def lowerNameChar (c : Char) : Char := if c = '\u212A' then 'k' else c.toLower

def variableEntries (environment : DotEnv.Variables) : List (String × Setting) :=
  environment.filterMap fun (name, value) =>
    let low := name.toList.map lowerNameChar
    if variableMark.isPrefixOf low then
      some (String.ofList (dotted (low.drop variableMark.length)),
        ⟨.text value, some "the environment"⟩)
    else none

def common (environment : DotEnv.Variables) (files : SourceFiles) :
    Except SettingsProblem (Nat × String) := do
  let file ← fileEntries files
  let table := SettingTable.putAll [] (file ++ variableEntries environment)
  let host ← match table.lookup "host" with
    | some s => s.toText "host"
    | none => pure defaultHost
  let port ← match table.lookup "port" with
    | some s => s.toPort "port"
    | none => pure defaultPort
  return (port, host)

/-- The number that a variable holds; what is no number below the bound counts as not set. -/
def number (environment : DotEnv.Variables) (name : String) (bound default : Nat) : Nat :=
  ((environment.lookup name).bind fun s => Setting.readBounded? bound s.toList).getD default

def flag (environment : DotEnv.Variables) (name : String) (default : Bool) : Bool :=
  match environment.lookup name with
  | some "true" => true
  | some "false" => false
  | _ => default

/-- Reads the settings. Variables of the file of variables count unless the environment has them. -/
def load (environment : DotEnv.Variables) (files : SourceFiles) : Except ServiceError Settings := do
  let environment := match files.lookup ".env" with
    | some content => DotEnv.extend environment content
    | none => environment
  let (port, host) ← (common environment files).mapError fun e => .settings (.settings e)
  let some url := environment.lookup "DATABASE_URL"
    | throw (.settings (.settings (.missingVariable "DATABASE_URL")))
  let text (name default : String) := (environment.lookup name).getD default
  return {
    port
    host
    serviceName := text "SERVICE_NAME" defaultName
    serviceVersion := text "SERVICE_VERSION" version
    logLevel := text "LOG_LEVEL" "info"
    otlpEndpoint := environment.lookup "OTLP_ENDPOINT"
    database := {
      url
      maxConnections := number environment "DATABASE_MAX_CONNECTIONS" (twoTo 32) 10
      minConnections := number environment "DATABASE_MIN_CONNECTIONS" (twoTo 32) 2 }
    worker := {
      enabled := flag environment "IMPORT_WORKER_ENABLED" true
      workerCount := max 1 (number environment "IMPORT_WORKER_COUNT" (twoTo 64) 4)
      queueSize := max 1 (number environment "IMPORT_QUEUE_SIZE" (twoTo 64) 100) }
    topics := {
      importSummary := text "IMPORT_SUMMARY_TOPIC" "bank-statement.import.completed"
      ledgerStatus := text "LEDGER_STATUS_TOPIC" "financial-record.status.updated" } }

end Settings

end BankReconciliation
