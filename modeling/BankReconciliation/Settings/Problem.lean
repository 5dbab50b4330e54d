import BankReconciliation.Json.Reader
import BankReconciliation.Text.Classes

/-! Why the settings cannot be used. -/

namespace BankReconciliation

inductive Found
  | text (s : String)
  | float (digits : String)
  | whole (n : Int)
  /-- A number without a sign that is past its bound. -/
  | unsigned (n : Nat)
  | bool (b : Bool)
  | unit | sequence | table
deriving DecidableEq

def Found.describe : Found → String
  | .text s => s!"string {Text.quoted s}"
  | .float digits => s!"floating point `{digits}`"
  | .whole n => s!"64-bit integer `{n}`"
  | .unsigned n => s!"64-bit unsigned integer `{n}`"
  | .bool b => s!"boolean `{b}`"
  | .unit => "unit value"
  | .sequence => "sequence"
  | .table => "map"

inductive SettingsFault
  | json (cause : Json.Located)
  | toml (text : String)
  | notTable (found : Found) (file : String)
deriving DecidableEq

def SettingsFault.message : SettingsFault → String
  | .json cause => cause.message
  | .toml text => text
  | .notTable found file => s!"invalid type: {found.describe}, expected a map in {file}"

inductive SettingsProblem
  | notFound (name : String)
  | text (message : String)
  /-- A value is not of the expected kind; `source` says where it was set. -/
  | wrongType (found : Found) (expected : String) (key : String) (source : Option String)
  | unreadable (fault : SettingsFault) (file : String)
  | missingVariable (name : String)
deriving DecidableEq

def SettingsProblem.message : SettingsProblem → String
  | .notFound name => s!"configuration property {Text.quoted name} not found"
  | .text message => message
  | .wrongType found expected key source =>
    let origin := match source with
      | some place => s!" in {place}"
      | none => ""
    s!"invalid type: {found.describe}, expected {expected} for key `{key}`{origin}"
  | .unreadable fault file => s!"{fault.message} in {file}"
  | .missingVariable name => s!"{name} is required"

end BankReconciliation
