import BankReconciliation.Export.Reader

/-! Parsers of statement files, and their registry by the names of banks. -/

namespace BankReconciliation

abbrev Opened := Except FileError FileEntry

structure Parser where
  /-- A short code of the bank. -/
  code : String
  names : List String
  /-- Whether the parser also takes files of a bank that it does not name. -/
  supports : String → Bool
  /-- The lines of the file at a location. -/
  parse : Batch → (location : String) → Opened → Except ExportProblem (List Line)

namespace Parser

/-- Whether a code or one of some names has the normal form of a bank's name. -/
def names? (code : String) (names : List String) (bank : String) : Bool :=
  (code :: names).any fun n => Text.normalForm n == Text.normalForm bank

def delimited (d : Dialect) : Parser where
  code := d.bankCode
  names := d.bankNames
  supports := names? d.bankCode d.bankNames
  parse batch location
    | .error e => .error (.unreadable location e)
    | .ok .directory => .error (.malformed .isDirectory)
    | .ok (.file content) => Export.lines d batch content

def keys (p : Parser) : List String := (p.code :: p.names).map Text.normalForm

end Parser

/-- Parsers in the order of their registration, and the owner of each name. -/
structure Registry where
  parsers : List Parser
  owners : List (String × Parser)

namespace Registry

def empty : Registry := ⟨[], []⟩

/-- Adds a parser. Names that an earlier parser owns stay with it. -/
def register (r : Registry) (p : Parser) : Registry :=
  ⟨r.parsers ++ [p], p.keys.foldl (fun owners key =>
    if (owners.lookup key).isSome then owners else owners ++ [(key, p)]) r.owners⟩

def default : Registry := empty.register (.delimited .bancoDoBrasil)

/-- The owner of a bank's name, or else the first parser that supports the bank. -/
def resolve (r : Registry) (bank : String) : Except ExportProblem Parser :=
  match r.owners.lookup (Text.normalForm bank) with
  | some p => .ok p
  | none =>
    match r.parsers.find? (·.supports bank) with
    | some p => .ok p
    | none => .error (.unsupportedBank bank)

def isSupported (r : Registry) (bank : String) : Bool := (r.resolve bank).toBool

end Registry

end BankReconciliation
