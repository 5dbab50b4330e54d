import BankReconciliation.Service.Import
import BankReconciliation.Service.Operations
import BankReconciliation.Store.Channel
import BankReconciliation.Store.Directory
import BankReconciliation.Store.Ledger
import BankReconciliation.Store.Statements
import BankReconciliation.Worker

/-! Collaborators of the service that live in memory. -/

namespace BankReconciliation

/-- The `n`-th of a sequence of identifiers whose order is not that of their numbers. -/
def Uuid.scattered (n : Nat) : Uuid :=
  .ofNat (n * 2654435761 % twoTo 32 * twoTo 96 + 0x4000 * twoTo 64 + 0x8000 * twoTo 48 +
    n % twoTo 48)

structure Memory where
  statements : Store.Statements := []
  ledger : Store.Ledger := {}
  directory : Store.Directory := {}
  channel : Store.Channel := {}
  worker : Worker ImportJob
  files : Files := []
  clock : Instant
  /-- The identifiers that are given out, by number. -/
  supply : Nat → Uuid := Uuid.scattered
  /-- How many identifiers were given out. -/
  issued : Nat := 0
  metrics : List MetricEvent := []

namespace Memory

/-- Answers a call. Every call is one step that nothing interrupts. -/
def answer : Program.Handler Collaborators Memory
  | .existsByFitId churchId bankId fitId, m =>
    (.ok (m.statements.existsByFitId churchId bankId fitId), m)
  | .existsByHash churchId bankId hash, m =>
    (.ok (m.statements.existsByHash churchId bankId hash), m)
  | .insertMany candidates, m =>
    let (ids, statements) := m.statements.insertMany candidates
    (.ok ids, { m with statements })
  | .findStatement churchId id, m => (.ok (m.statements.find? churchId id), m)
  | .updateReconciliation s, m =>
    match m.statements.replace? s with
    | some statements => (.ok (), { m with statements })
    | none => (.error (.notFound (.statementNotFound s.id)), m)
  | .list filter pageSize token, m => (.ok (m.statements.page filter pageSize token), m)
  | .findOne filter, m =>
    (.ok (m.ledger.findOne filter), { m with ledger.queries := m.ledger.queries + 1 })
  | .findRecord churchId id, m => (.ok (m.ledger.find? churchId id), m)
  | .dispatchStatus record status, m =>
    (.ok (), { m with ledger := m.ledger.dispatch record status })
  | .findBank id, m => (.ok (m.directory.findBank id), m)
  | .findAccount churchId id, m => (.ok (m.directory.findAccount churchId id), m)
  | .enqueue job, m =>
    match m.worker.enqueue job with
    | .ok worker => (.ok (), { m with worker })
    | .error e => (.error e, m)
  | .notify topic payload, m =>
    let (result, channel) := m.channel.send ⟨topic, payload⟩
    (result, { m with channel })
  | .openFile location, m => (m.files.find location, m)
  | .removeFile location, m =>
    match m.files.remove location with
    | .ok files => (.ok (), { m with files })
    | .error e => (.error e, m)
  | .now, m => (m.clock, m)
  | .newId, m => (m.supply m.issued, { m with issued := m.issued + 1 })
  | .count event, m => ((), { m with metrics := m.metrics ++ [event] })

end Memory

end BankReconciliation
