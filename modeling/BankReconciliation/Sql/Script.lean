import BankReconciliation.Sql.Ledger

/-! A database server that evaluates nothing: it records what it is sent, and sends back what a
script says. -/

namespace BankReconciliation.Sql

structure ScriptedReply where
  rows : List Cells := []
  /-- The number of affected rows; the number of rows when it is left out. -/
  affected : Option Nat := none
  error : Option String := none
  /-- The numbers of the inserted rows that are in conflict. -/
  conflicts : List Nat := []

inductive Weakness | begin | commit
deriving DecidableEq

structure Script where
  replies : List ScriptedReply := []
  weakness : Option Weakness := none
  /-- What was received, with the values as the server keeps them. -/
  received : List Command := []

namespace Script

def refusal : Failure := .server "scripted failure"

def insertedIds (params : List Value) : List Value :=
  params.filter fun
    | .uuid _ => true
    | _ => false

/-- The rows that an insertion answers: the ids of the rows without conflict. -/
def insertionRows (params : List Value) (conflicts : List Nat) : List Cells :=
  ((insertedIds params).zipIdx.filter fun (_, i) => !conflicts.contains i).map fun (id, _) =>
    [("bank_statement_id", id)]

def isInsertion (q : Query) : Bool := q.text.startsWith "INSERT INTO bank_statements"

def reply (q : Query) (r : ScriptedReply) : Except Failure Result :=
  match r.error with
  | some text => .error (.server text)
  | none =>
    let rows := if isInsertion q then insertionRows q.params r.conflicts
      else r.rows.map fun row => row.map fun (name, v) => (name, v.stored)
    .ok ⟨rows, r.affected.getD rows.length⟩

def answer : Program.Handler Wire Script
  | .begin, s =>
    (if s.weakness = some .begin then .error refusal else .ok (),
      { s with received := s.received ++ [.begin] })
  | .commit, s =>
    (if s.weakness = some .commit then .error refusal else .ok (),
      { s with received := s.received ++ [.commit] })
  | .rollback, s => (.ok (), { s with received := s.received ++ [.rollback] })
  | .query q, s =>
    let q := { q with params := q.params.map Value.stored }
    let next := s.replies.head?.getD {}
    (reply q next, { s with replies := s.replies.tail, received := s.received ++ [.query q] })

def converse {α : Type} (s : Script) (exchange : Exchange α) :
    Program.Outcome (Except ServiceError α) × Script := exchange.run.run answer s

end Script

def closedPool : Program.Handler Wire Unit
  | .begin, _ => (.error .poolClosed, ())
  | .commit, _ => (.error .poolClosed, ())
  | .rollback, _ => (.error .poolClosed, ())
  | .query _, _ => (.error .poolClosed, ())

end BankReconciliation.Sql
