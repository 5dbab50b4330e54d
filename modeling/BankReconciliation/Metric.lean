import BankReconciliation.Text.Digits

/-! Counters of the service. An event names the series that it makes grow. -/

namespace BankReconciliation

inductive MetricEvent
  /-- An error under its label. -/
  | error (label : String)
  /-- A finished import by its status; its duration is observed too. -/
  | imported (status : String)
  /-- Lines by what became of them. -/
  | lines (outcome : String) (count : Nat)
  /-- An attempt at reconciliation by its method. -/
  | reconciliation (method : String) (matched : Bool)
deriving DecidableEq

namespace MetricEvent

def escapeLabel (c : Char) : List Char :=
  match c with
  | '\\' => ['\\', '\\']
  | '"' => ['\\', '"']
  | '\n' => ['\\', 'n']
  | c => [c]

def labelChars (label : String × String) : List Char :=
  label.1.toList ++ '=' :: '"' :: label.2.toList.flatMap escapeLabel ++ ['"']

def series (name : String) (labels : List (String × String)) : String :=
  String.ofList (name.toList ++ '\x7b' :: [','].intercalate (labels.map labelChars) ++ ['\x7d'])

/-- The series that an event makes grow, each with its growth. -/
def growth : MetricEvent → List (String × Nat)
  | .error label => [(series "bank_statement_errors_total" [("error_type", label)], 1)]
  | .imported status =>
    [(series "bank_statement_imports_total" [("status", status)], 1),
      (series "bank_statement_import_duration_seconds_count" [("status", status)], 1)]
  | .lines outcome count => [(series "bank_statement_lines_total" [("outcome", outcome)], count)]
  | .reconciliation method matched =>
    [(series "bank_statement_reconciliations_total"
      [("method", method), ("result", if matched then "matched" else "unmatched")], 1)]

end MetricEvent

/-- The growth of every series over some events; series that do not grow are left out. -/
def totalGrowth (events : List MetricEvent) : List (String × Nat) :=
  (events.flatMap MetricEvent.growth).foldl (fun totals (name, n) =>
    if n = 0 then totals
    else match totals.lookup name with
      | some m => (name, m + n) :: totals.filter (·.1 != name)
      | none => (name, n) :: totals) []

end BankReconciliation
