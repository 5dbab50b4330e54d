import BankReconciliation.Settings.Toml.Problem

/-! What stands between the parts of a TOML text: white space, comments and line ends. -/

namespace BankReconciliation.Toml

def isSpace (c : Char) : Bool := c == ' ' || c == '\t'

def skipSpace (cs : List Char) : List Char := cs.dropWhile isSpace

/-- Every character but the controls other than a tab. -/
def isPrintable (c : Char) : Bool := c == '\t' || (decide (0x20 ≤ c.toNat) && c != '\x7f')

def skipComment (cs : List Char) : List Char :=
  match cs with
  | '#' :: rest => rest.dropWhile isPrintable
  | cs => cs

/-- Skips a line end; a return without a line feed is not one. -/
def lineFeed : List Char → Attempt (List Char)
  | '\n' :: rest => .ok rest
  | '\r' :: '\n' :: rest => .ok rest
  | '\r' :: rest => fail rest
  | cs => fail cs

def lineEnd (cs : List Char) : Attempt (List Char) :=
  if cs = [] then .ok []
  else match lineFeed cs with
    | .ok rest => .ok rest
    | .error _ => fail cs

def restOfLine (cs : List Char) : Attempt (List Char) :=
  commit (expecting [.lineFeed, .mark "#"] (lineEnd (skipComment (skipSpace cs))))

def skipLines : (fuel : Nat) → List Char → Attempt (List Char)
  | 0, cs => fail cs
  | fuel + 1, cs =>
    match skipSpace cs with
    | '#' :: rest => do skipLines fuel (← lineFeed (skipComment ('#' :: rest)))
    | '\n' :: rest => skipLines fuel rest
    | '\r' :: rest => do skipLines fuel (← lineFeed ('\r' :: rest))
    | rest => .ok rest

def skipBlank (cs : List Char) : Attempt (List Char) := skipLines (cs.length + 1) cs

end BankReconciliation.Toml
