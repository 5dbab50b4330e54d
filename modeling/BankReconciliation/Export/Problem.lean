import BankReconciliation.Files

/-! Why a statement file cannot be turned into lines. -/

namespace BankReconciliation

inductive RowFault
  | date (cell : String)
  | amount (cell : String)
  | other (reason : String)
deriving DecidableEq

def RowFault.message : RowFault → String
  | .date cell => s!"invalid date '{cell}'"
  | .amount cell => s!"invalid amount '{cell}'"
  | .other reason => reason

inductive ExportProblem
  | unsupportedBank (name : String)
  /-- The file cannot be opened. -/
  | unreadable (path : String) (cause : FileError)
  /-- The file was opened and its records cannot be read. -/
  | malformed (cause : FileError)
  | missingColumn (label : String)
  | invalidRow (line : Nat) (fault : RowFault)
  /-- Reading was given up for a reason outside the file. -/
  | task (reason : String)
deriving DecidableEq

namespace ExportProblem

def message : ExportProblem → String
  | .unsupportedBank name => s!"No parser for bank {name}"
  | .unreadable path cause => s!"Failed to read statement file {path}: {cause.message}"
  | .malformed cause => s!"Malformed statement file: {cause.message}"
  | .missingColumn label => s!"Statement header is missing column '{label}'"
  | .invalidRow line fault => s!"Invalid row at line {line}: {fault.message}"
  | .task reason => s!"Parser task failed: {reason}"

def line? : ExportProblem → Option Nat
  | .invalidRow line _ => some line
  | _ => none

end ExportProblem

end BankReconciliation
