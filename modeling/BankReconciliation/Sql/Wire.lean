import BankReconciliation.Program
import BankReconciliation.Error
import BankReconciliation.Sql.Failure
import BankReconciliation.Sql.Query

/-! What is sent to a database server, and programs that send it. -/

namespace BankReconciliation.Sql

inductive Command
  | begin
  | commit
  | rollback
  | query (q : Query)

def Command.Answer : Command → Type
  | .begin | .commit | .rollback => Except Failure Unit
  | .query _ => Except Failure Result

def Wire : Interface := ⟨Command, Command.Answer⟩

abbrev Dialogue := Program Wire

abbrev Exchange := ExceptT ServiceError Dialogue

def request (c : Command) : Dialogue c.Answer := Program.request (I := Wire) c

def explain {α : Type} (action : Action) (result : Except Failure α) : Except ServiceError α :=
  result.mapError fun e => .database (.storage action e)

def begin : Dialogue (Except Failure Unit) := request .begin

def commit : Dialogue (Except Failure Unit) := request .commit

/-- Gives up a transaction; what the server says to that does not matter. -/
def rollback : Dialogue Unit := do
  let _ ← request .rollback
  return ()

def query (q : Query) : Dialogue (Except Failure Result) := request (.query q)

def exec (action : Action) (pieces : List Piece) : Exchange Result := do
  let result ← ExceptT.lift (query (.ofPieces pieces))
  explain action result

end BankReconciliation.Sql
