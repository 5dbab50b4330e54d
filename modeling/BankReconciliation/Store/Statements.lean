import BankReconciliation.Service.Calls

/-! The statements that are stored, in the order in which they were inserted. -/

namespace BankReconciliation

namespace Statement

/-- Whether a candidate repeats a stored statement of its church and bank: by its reference, if it
has one, or by its content. -/
def collides (stored candidate : Statement) : Bool :=
  stored.churchId == candidate.churchId && stored.bank.id == candidate.bank.id &&
    ((candidate.hasFitId && stored.fitId == candidate.fitId) || stored.hash == candidate.hash)

def isNamed (churchId : String) (id : Uuid) (s : Statement) : Bool :=
  s.churchId == churchId && s.id == id

end Statement

/-- The number of statements on a page, whatever number is asked for. -/
def pageLimit (pageSize : Int32) : Nat := (max 1 (min 100 pageSize.toInt)).toNat

namespace Store

abbrev Statements := List Statement

namespace Statements

/-- Whether the reference is known; nothing has the empty reference. -/
def existsByFitId (stored : Statements) (churchId bankId fitId : String) : Bool :=
  fitId != "" &&
    stored.any fun s => s.churchId == churchId && s.bank.id == bankId && s.fitId == fitId

def existsByHash (stored : Statements) (churchId bankId hash : String) : Bool :=
  stored.any fun s => s.churchId == churchId && s.bank.id == bankId && s.hash == hash

/-- Adds the candidates that collide with nothing stored before them. Answers the ids of those added
and all that is stored then. -/
def insertMany : Statements → List Statement → List Uuid × Statements
  | stored, [] => ([], stored)
  | stored, c :: cs =>
    if stored.any (·.collides c) then insertMany stored cs
    else
      let (ids, stored) := insertMany (stored ++ [c]) cs
      (c.id :: ids, stored)

def find? (stored : Statements) (churchId : String) (id : Uuid) : Option Statement :=
  List.find? (Statement.isNamed churchId id) stored

def replace? : Statements → Statement → Option Statements
  | [], _ => none
  | t :: ts, s => if t.isNamed s.churchId s.id then some (s :: ts) else (replace? ts s).map (t :: ·)

/-- The stored statement that a token names; a token that names none asks for the first page. -/
def cursor? (stored : Statements) (token : Option Uuid) : Option Statement :=
  token.bind fun id => List.find? (·.id == id) stored

def accepted (stored : Statements) (filter : StatementFilter) : List Statement :=
  (stored.filter filter.accepts).mergeSort fun a b => decide ¬ b.precedes a

/-- One page of the accepted statements after the token. It has a token if more follow. -/
def page (stored : Statements) (filter : StatementFilter) (pageSize : Int32) (token : Option Uuid) :
    Page :=
  let rest := (accepted stored filter).filter fun s => (cursor? stored token).all (·.precedes s)
  let items := rest.take (pageLimit pageSize)
  ⟨items, if pageLimit pageSize < rest.length then items.getLast?.map (·.id.render) else none⟩

end Statements

end Store

end BankReconciliation
