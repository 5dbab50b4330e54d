import BankReconciliation.Http.Probe
import BankReconciliation.Service.Operations
import BankReconciliation.Sql.Script

/-! The running application: it is built over a database, answers probes and listings, and stops. -/

namespace BankReconciliation.Http

inductive Network | reachable | unreachable
deriving DecidableEq

def unreachableText : String := "Network is unreachable (os error 101)"

inductive Visit
  | get (method target : String)
  /-- The database fails from now on, or works again. -/
  | down (value : Bool)
  /-- The first page of one statement of a church. -/
  | list

inductive Sight
  | response (r : Response)
  | nothing
  | page (result : Except ServiceError Page)
  /-- The application has stopped. -/
  | stopped

/-- The replies of a database without rows, or of one that fails. -/
def database (down : Bool) : Sql.Script :=
  { replies := List.replicate 1 { error := if down then some "database is down" else none } }

def resultOf {α : Type} (down : Bool) (exchange : Sql.Exchange α) : Except ServiceError α :=
  match ((database down).converse exchange).1 with
  | .returned r => r
  | .aborted => .error (.internal (.text "task failed"))

def visit (down : Bool) : Visit → Sight
  | .get method target => .response (respond method target (resultOf down Sql.checkHealth))
  | .down _ => .nothing
  | .list => .page (resultOf down (Sql.list { churchId := "c" } 1 none))

def visits : (down : Bool) → List Visit → List Sight
  | _, [] => [.stopped]
  | down, v :: rest =>
    let next := match v with
      | .down value => value
      | _ => down
    visit down v :: visits next rest

def run (network : Network) (all : List Visit) : Except String (List Sight) :=
  match network with
  | .unreachable => .error unreachableText
  | .reachable => .ok (visits false all)

end BankReconciliation.Http
