import BankReconciliation.Ledger.Record
import BankReconciliation.Statement.Basic

/-! Which ledger records may settle a statement: those of its church and account, of its exact
amount and a fitting type, still open, and dated on its posting day or on a day beside it. -/

namespace BankReconciliation.Matching

/-- The types of record that a statement of a direction may settle. -/
def typesFor : Direction → List RecordType
  | .income => [.income]
  | .outgo => [.outgo, .purchase]

def openStatuses : List RecordStatus := [.pending, .cleared]

/-- The condition on the records that may settle a statement. There is none when a day of the window
around the posting day cannot be represented. -/
def filterFor? (s : Statement) : Option RecordFilter := do
  let before ← s.postedAt.date.prev?
  let after ← s.postedAt.date.next? >>= Date.next?
  return {
    churchId := s.churchId
    amount := s.amount
    dateFrom := .midnight before
    dateUntil := .midnight after
    types := typesFor s.direction
    statuses := openStatuses
    accountId := s.account.id }

end BankReconciliation.Matching
