import BankReconciliation.Bank

/-! The directory of banks and accounts. -/

namespace BankReconciliation.Store

structure Directory where
  banks : List Bank := []
  accounts : List Account := []

namespace Directory

/-- Adds a bank, in place of one with its id. -/
def withBank (d : Directory) (b : Bank) : Directory :=
  { d with banks := b :: d.banks.filter (·.id != b.id) }

def withAccount (d : Directory) (a : Account) : Directory :=
  { d with accounts := a :: d.accounts.filter (·.id != a.id) }

def findBank (d : Directory) (id : String) : Option Bank := d.banks.find? (·.id == id)

def findAccount (d : Directory) (churchId id : String) : Option Account :=
  (d.accounts.find? (·.id == id)).filter (·.churchId == churchId)

end Directory

end BankReconciliation.Store
