import BankReconciliation.Error

/-! The channel of notifications. -/

namespace BankReconciliation.Store

structure Notice where
  topic : String
  payload : Json

structure Channel where
  /-- A channel that is not enabled refuses every notice. -/
  enabled : Bool := true
  /-- Whether somebody still listens. -/
  connected : Bool := true
  /-- Notices that were sent and not fetched yet. -/
  waiting : List Notice := []
  sent : Nat := 0

namespace Channel

def send (c : Channel) (notice : Notice) : Except ServiceError Unit × Channel :=
  if !c.enabled then (.error .unavailable, c)
  else if !c.connected then (.error (.internal .channelClosed), c)
  else (.ok (), { c with waiting := c.waiting ++ [notice], sent := c.sent + 1 })

def fetch (c : Channel) : List Notice × Channel := (c.waiting, { c with waiting := [] })

def disconnect (c : Channel) : Channel := { c with connected := false, waiting := [] }

end Channel

end BankReconciliation.Store
