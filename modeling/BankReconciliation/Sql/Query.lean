import BankReconciliation.Decimal.Basic
import BankReconciliation.Json.Basic
import BankReconciliation.Text.Digits
import BankReconciliation.Time.Instant
import BankReconciliation.Uuid

/-! Queries: text with numbered parameters, and the values that are bound to them. -/

namespace BankReconciliation.Sql

inductive Value
  | null
  | bool (b : Bool)
  | text (s : String)
  | int (n : Int)
  | uuid (u : Uuid)
  | time (t : Instant)
  | decimal (d : Decimal)
  | json (j : Json)
  | texts (items : List String)

namespace Value

def ofText? : Option String → Value
  | some s => .text s
  | none => .null

def ofTime? : Option Instant → Value
  | some t => .time t
  | none => .null

/-- The value as a database keeps it: times to the microsecond, and zero without places. -/
def stored : Value → Value
  | .time t => .time (t.toMicros?.getD t)
  | .decimal d => .decimal (if d.isZero then .zero else d)
  | v => v

end Value

inductive Piece
  | sql (text : String)
  | bind (value : Value)

structure Query where
  text : String
  params : List Value

namespace Query

def textFrom : Nat → List Piece → String
  | _, [] => ""
  | n, .sql s :: rest => s ++ textFrom n rest
  | n, .bind _ :: rest => "$" ++ String.ofList (Text.digits n) ++ textFrom (n + 1) rest

def valuesOf (pieces : List Piece) : List Value :=
  pieces.filterMap fun
    | .sql _ => none
    | .bind v => some v

/-- Parameters are numbered from 1 in the order of their places. -/
def ofPieces (pieces : List Piece) : Query := ⟨textFrom 1 pieces, valuesOf pieces⟩

end Query

abbrev Cells := List (String × Value)

structure Result where
  rows : List Cells
  affected : Nat

end BankReconciliation.Sql
