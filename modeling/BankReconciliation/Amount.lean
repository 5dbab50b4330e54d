import BankReconciliation.Text.Blank
import BankReconciliation.Decimal.Reader

/-! Amounts as Brazilian banks write them: `-1.234,56`, `R$ 10,00`, `(15,00)`, `80,00 D`. -/

namespace BankReconciliation.Amount

def removeSymbol : List Char → List Char
  | 'R' :: '$' :: cs => removeSymbol cs
  | c :: cs => c :: removeSymbol cs
  | [] => []

/-- Splits off a trailing mark: `D` for a debit, `C` for a credit. The flag says "debit". -/
def splitMark (cs : List Char) : Bool × List Char :=
  match cs.getLast? with
  | some 'D' | some 'd' => (true, cs.dropLast)
  | some 'C' | some 'c' => (false, cs.dropLast)
  | _ => (false, cs)

def inParentheses? (cs : List Char) : Option (List Char) :=
  if cs.head? = some '(' ∧ cs.getLast? = some ')' ∧ 2 < cs.length then some cs.tail.dropLast
  else none

/-- Points group the thousands and a comma divides; the result has the decimal point instead. -/
def toPoint (cs : List Char) : List Char :=
  (cs.filter (· != '.')).map fun c => if c = ',' then '.' else c

def plainText (cs : List Char) : Bool × List Char :=
  let (debit, cs) := splitMark (Text.removeBlanks (removeSymbol cs))
  match inParentheses? cs with
  | some inner => (true, toPoint inner)
  | none => (debit, toPoint cs)

/-- Reads an amount and keeps its sign; a debit is negative whatever sign is written. -/
def read? (cs : List Char) : Option Decimal :=
  let (debit, text) := plainText cs
  (Decimal.read? text).map fun d => if debit then d.abs.neg else d

def ofString? (s : String) : Option Decimal := read? s.toList

end BankReconciliation.Amount
