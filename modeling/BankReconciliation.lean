import BankReconciliation.Amount
import BankReconciliation.Bank
import BankReconciliation.Binary64
import BankReconciliation.Csv.Reader
import BankReconciliation.Decimal.Basic
import BankReconciliation.Decimal.Reader
import BankReconciliation.Deployment.Faults
import BankReconciliation.Deployment.Memory
import BankReconciliation.Deployment.Session
import BankReconciliation.Digest.Sha256
import BankReconciliation.Error
import BankReconciliation.Export.Parser
import BankReconciliation.Export.Problem
import BankReconciliation.Export.Reader
import BankReconciliation.Files
import BankReconciliation.Http.Application
import BankReconciliation.Http.Probe
import BankReconciliation.Json.Basic
import BankReconciliation.Json.Printer
import BankReconciliation.Json.Reader
import BankReconciliation.Ledger.Record
import BankReconciliation.Matching
import BankReconciliation.Message.Decode
import BankReconciliation.Message.Encode
import BankReconciliation.Metric
import BankReconciliation.Program
import BankReconciliation.Proofs.Amount
import BankReconciliation.Proofs.Amount.Notation
import BankReconciliation.Proofs.Amount.Soundness
import BankReconciliation.Proofs.Amount.Written
import BankReconciliation.Proofs.Csv
import BankReconciliation.Proofs.Decimal.Accepted
import BankReconciliation.Proofs.Decimal.Reader
import BankReconciliation.Proofs.Decimal.Rounding
import BankReconciliation.Proofs.Decimal.Value
import BankReconciliation.Proofs.Except
import BankReconciliation.Proofs.Export
import BankReconciliation.Proofs.Export.Columns
import BankReconciliation.Proofs.Export.Encoding
import BankReconciliation.Proofs.Export.Faults
import BankReconciliation.Proofs.Export.Registry
import BankReconciliation.Proofs.Export.Transactions
import BankReconciliation.Proofs.Files
import BankReconciliation.Proofs.Interleaving.Backing
import BankReconciliation.Proofs.Interleaving.Balance
import BankReconciliation.Proofs.Interleaving.Conduct
import BankReconciliation.Proofs.Interleaving.Deduplication
import BankReconciliation.Proofs.Interleaving.Independence
import BankReconciliation.Proofs.Interleaving.Knowledge
import BankReconciliation.Proofs.Interleaving.Links
import BankReconciliation.Proofs.Interleaving.Listing
import BankReconciliation.Proofs.Interleaving.Log
import BankReconciliation.Proofs.Interleaving.Orderly
import BankReconciliation.Proofs.Interleaving.Permanence
import BankReconciliation.Proofs.Interleaving.Races
import BankReconciliation.Proofs.Interleaving.Sequential
import BankReconciliation.Proofs.Interleaving.Service
import BankReconciliation.Proofs.Interleaving.Serving
import BankReconciliation.Proofs.Interleaving.System
import BankReconciliation.Proofs.Matching
import BankReconciliation.Proofs.Message
import BankReconciliation.Proofs.Metric
import BankReconciliation.Proofs.Service.Agreement
import BankReconciliation.Proofs.Service.Attempts
import BankReconciliation.Proofs.Service.Choice
import BankReconciliation.Proofs.Service.Confinement
import BankReconciliation.Proofs.Service.Delimited
import BankReconciliation.Proofs.Service.Dialogue
import BankReconciliation.Proofs.Service.Disclosure
import BankReconciliation.Proofs.Service.Failures
import BankReconciliation.Proofs.Service.History
import BankReconciliation.Proofs.Service.Import
import BankReconciliation.Proofs.Service.Isolation
import BankReconciliation.Proofs.Service.NewLines
import BankReconciliation.Proofs.Service.Operations
import BankReconciliation.Proofs.Service.Preflight
import BankReconciliation.Proofs.Service.Reconcile
import BankReconciliation.Proofs.Service.References
import BankReconciliation.Proofs.Service.Refusals
import BankReconciliation.Proofs.Service.Splitting
import BankReconciliation.Proofs.Service.Transcripts
import BankReconciliation.Proofs.Sql.Insertion
import BankReconciliation.Proofs.Sql.Listing
import BankReconciliation.Proofs.Sql.Reading
import BankReconciliation.Proofs.Sql.Rows
import BankReconciliation.Proofs.Sql.Table
import BankReconciliation.Proofs.Sql.Transaction
import BankReconciliation.Proofs.Sql.Versions
import BankReconciliation.Proofs.Sql.Wire
import BankReconciliation.Proofs.Statement.Fingerprint
import BankReconciliation.Proofs.Store.Church
import BankReconciliation.Proofs.Store.Ledger
import BankReconciliation.Proofs.Store.Listing
import BankReconciliation.Proofs.Store.Statements
import BankReconciliation.Proofs.Store.Walk
import BankReconciliation.Proofs.Text.Blank
import BankReconciliation.Proofs.Text.Cell
import BankReconciliation.Proofs.Text.Digits
import BankReconciliation.Proofs.Text.NormalForm
import BankReconciliation.Proofs.Text.Separated
import BankReconciliation.Proofs.Time.DatePattern
import BankReconciliation.Proofs.Time.DayNumber
import BankReconciliation.Proofs.Time.Timestamp
import BankReconciliation.Proofs.Transcript
import BankReconciliation.Proofs.Uuid
import BankReconciliation.Proofs.Worker
import BankReconciliation.Service.Calls
import BankReconciliation.Service.Import
import BankReconciliation.Service.Operations
import BankReconciliation.Service.Reconcile
import BankReconciliation.Settings.DotEnv
import BankReconciliation.Settings.Load
import BankReconciliation.Settings.Problem
import BankReconciliation.Settings.Toml.Moment
import BankReconciliation.Settings.Toml.Number
import BankReconciliation.Settings.Toml.Problem
import BankReconciliation.Settings.Toml.Quotation
import BankReconciliation.Settings.Toml.Reader
import BankReconciliation.Settings.Toml.Table
import BankReconciliation.Settings.Toml.Trivia
import BankReconciliation.Settings.Toml.Value
import BankReconciliation.Settings.Value
import BankReconciliation.Sql.Address
import BankReconciliation.Sql.Directory
import BankReconciliation.Sql.Failure
import BankReconciliation.Sql.Host
import BankReconciliation.Sql.Ledger
import BankReconciliation.Sql.Query
import BankReconciliation.Sql.Rows
import BankReconciliation.Sql.Script
import BankReconciliation.Sql.Statements
import BankReconciliation.Sql.Wire
import BankReconciliation.Statement.Basic
import BankReconciliation.Statement.Row
import BankReconciliation.Store.Channel
import BankReconciliation.Store.Directory
import BankReconciliation.Store.Ledger
import BankReconciliation.Store.Statements
import BankReconciliation.Text.Blank
import BankReconciliation.Text.Classes
import BankReconciliation.Text.Digits
import BankReconciliation.Text.Encoding
import BankReconciliation.Text.NormalForm
import BankReconciliation.Text.Uppercase
import BankReconciliation.Time.Date
import BankReconciliation.Time.DateFields
import BankReconciliation.Time.DatePattern
import BankReconciliation.Time.Instant
import BankReconciliation.Time.Timestamp
import BankReconciliation.Time.Week
import BankReconciliation.Uuid
import BankReconciliation.Worker
