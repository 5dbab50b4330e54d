import BankReconciliation.Text.Digits
import BankReconciliation.Text.Encoding

/-! Hosts in addresses: names, four numbers such as `10.0.0.1`, and eight groups of hexadecimal
digits between brackets. -/

namespace BankReconciliation.Sql

inductive AddressFault
  | noScheme | emptyHost | badName | badCharacter | badQuad | badGroups | badPort
deriving DecidableEq

def AddressFault.message : AddressFault → String
  | .noScheme => "relative URL without a base"
  | .emptyHost => "empty host"
  | .badName => "invalid international domain name"
  | .badCharacter => "invalid domain character"
  | .badQuad => "invalid IPv4 address"
  | .badGroups => "invalid IPv6 address"
  | .badPort => "invalid port number"

namespace Host

def isGroup (cs : List Char) : Bool :=
  !cs.isEmpty && decide (cs.length ≤ 4) && cs.all fun c => (Text.hexValue? c).isSome

/-- Four numbers of one byte, which may stand for the last two groups. -/
def isQuad (cs : List Char) : Bool :=
  let parts := cs.splitOnP (· == '.')
  parts.length == 4 && parts.all fun p =>
    match Text.readDigits? p with
    | some n => decide (n ≤ 255) && (p.length == 1 || p.head? != some '0')
    | none => false

def groupCount? (quadAllowed : Bool) (cs : List Char) : Option Nat :=
  if cs.isEmpty then some 0
  else
    let parts := cs.splitOnP (· == ':')
    let last := parts.getLast?.getD []
    if !parts.dropLast.all isGroup then none
    else if isGroup last then some parts.length
    else if quadAllowed && isQuad last then some (parts.length + 1)
    else none

def splitDouble : List Char → Option (List Char × List Char)
  | ':' :: ':' :: rest => some ([], rest)
  | c :: rest => (splitDouble rest).map fun (l, r) => (c :: l, r)
  | [] => none

/-- Whether a text has eight groups; a double colon stands for one zero group or more. -/
def isGroups (cs : List Char) : Bool :=
  match splitDouble cs with
  | none => groupCount? true cs == some 8
  | some (left, right) =>
    match groupCount? false left, groupCount? true right with
    | some l, some r => decide (l + r ≤ 7)
    | _, _ => false

def checkGroups (cs : List Char) : Except AddressFault Unit :=
  if cs.getLast? = some ']' ∧ isGroups cs.tail.dropLast then .ok () else .error .badGroups

/-- Reads digits to a base; no digits stand for zero. -/
def readBase? (base : Nat) (cs : List Char) : Option Nat :=
  cs.foldlM (fun n c => ((Text.hexValue? c).filter (· < base)).map (n * base + ·)) 0

def number? : List Char → Option Nat
  | [] => none
  | '0' :: 'x' :: ds => readBase? 16 ds
  | '0' :: 'X' :: ds => readBase? 16 ds
  | '0' :: d :: ds => readBase? 8 (d :: ds)
  | ds => readBase? 10 ds

/-- The parts between the points of a name; a closing point counts for nothing. -/
def labels (cs : List Char) : List (List Char) :=
  let parts := cs.splitOnP (· == '.')
  if parts.getLast? = some [] then parts.dropLast else parts

/-- Whether a name has to be four numbers, since its last part is a number. -/
def endsInNumber (cs : List Char) : Bool :=
  let last := (labels cs).getLast?.getD []
  !last.isEmpty && (last.all Char.isDigit || (number? last).isSome)

/-- Checks up to four numbers. All but the last are of one byte; the last fills the other bytes. -/
def checkQuad (cs : List Char) : Except AddressFault Unit :=
  match (labels cs).mapM number? with
  | none => .error .badQuad
  | some ns =>
    if ns.length ≤ 4 ∧ ns.dropLast.all (· ≤ 255) ∧
        ns.getLast?.getD 0 < twoTo (32 - 8 * (ns.length - 1)) then .ok ()
    else .error .badQuad

def percentDecode : Text.Bytes → Text.Bytes
  | 0x25 :: a :: b :: rest =>
    match Text.hexValue? (Char.ofNat a.toNat), Text.hexValue? (Char.ofNat b.toNat) with
    | some x, some y => (x * 16 + y).toUInt8 :: percentDecode rest
    | _, _ => 0x25 :: percentDecode (a :: b :: rest)
  | b :: rest => b :: percentDecode rest
  | [] => []
termination_by bytes => bytes.length

def isForbidden (c : Char) : Bool := "\x00\t\n\r #/:<>?@[\\]^|".toList.contains c

def isForbiddenInName (c : Char) : Bool :=
  isForbidden c || c == '%' || c == '\x7f' || c == '\uFFFD' || decide (c.toNat < 0x20)

def checkPlain (cs : List Char) : Except AddressFault Unit :=
  if cs.head? = some '[' then checkGroups cs
  else if cs.any isForbidden then .error .badCharacter
  else .ok ()

def checkWeb (cs : List Char) : Except AddressFault Unit :=
  if cs.head? = some '[' then checkGroups cs
  else match Text.decodeUtf8? (percentDecode (Text.encodeUtf8 cs)) with
    | none => .error .badName
    | some name =>
      if name.any isForbiddenInName then .error .badName
      else if name.isEmpty then .error .emptyHost
      else if endsInNumber name then checkQuad name
      else .ok ()

end Host

end BankReconciliation.Sql
