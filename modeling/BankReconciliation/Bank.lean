/-! Banks and the ledger accounts that they feed, referred to by value. -/

namespace BankReconciliation

structure Bank where
  id : String
  churchId : String
  name : String
  tag : String
  /-- The ledger account that the bank's statements post to. -/
  accountId : Option String
deriving DecidableEq, Inhabited

structure Account where
  id : String
  churchId : String
  name : String
deriving DecidableEq, Inhabited

/-- A bank as it was when a statement was made. -/
structure BankSnapshot where
  id : String
  name : String
  tag : String
deriving DecidableEq, Inhabited

structure AccountSnapshot where
  id : String
  name : String
deriving DecidableEq, Inhabited

def Bank.snapshot (b : Bank) : BankSnapshot := ⟨b.id, b.name, b.tag⟩

def Account.snapshot (a : Account) : AccountSnapshot := ⟨a.id, a.name⟩

@[simp] theorem Bank.snapshot_id (b : Bank) : b.snapshot.id = b.id := rfl
@[simp] theorem Account.snapshot_id (a : Account) : a.snapshot.id = a.id := rfl

end BankReconciliation
