import BankReconciliation.Settings.Value

/-! Values of TOML. Only what settings need of them is kept. -/

namespace BankReconciliation.Toml

inductive Value
  /-- A date, a time of day or both, by its text. -/
  | moment (s : String)
  | plain (v : SettingValue)
deriving DecidableEq

namespace Value

def setting : Value → SettingValue
  | .moment s => .text s
  | .plain v => v

def kind : Value → String
  | .moment _ => "datetime"
  | .plain (.text _) => "string"
  | .plain (.whole _) => "integer"
  | .plain (.float ..) | .plain (.infinite _) | .plain .notNumber => "float"
  | .plain (.bool _) => "boolean"
  | .plain .unit => "none"
  | .plain .sequence => "array"
  | .plain .table => "inline table"

end Value

end BankReconciliation.Toml
