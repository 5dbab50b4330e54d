import BankReconciliation.Binary64
import BankReconciliation.Json.Basic

/-! The text of JSON values, without spaces. -/

namespace BankReconciliation.Json

def hexDigit (n : Nat) : Char := Nat.digitChar (n % 16)

/-- One character of a text. Controls are written by name or by code. -/
def escapeChar (c : Char) : List Char :=
  match c with
  | '"' => ['\\', '"']
  | '\\' => ['\\', '\\']
  | '\x08' => ['\\', 'b']
  | '\x0c' => ['\\', 'f']
  | '\n' => ['\\', 'n']
  | '\r' => ['\\', 'r']
  | '\t' => ['\\', 't']
  | c =>
    if c.toNat < 0x20 then ['\\', 'u', '0', '0', hexDigit (c.toNat / 16), hexDigit c.toNat]
    else [c]

def strChars (s : String) : List Char := '"' :: s.toList.flatMap escapeChar ++ ['"']

def intChars (n : Int) : List Char :=
  if n < 0 then '-' :: Text.digits n.natAbs else Text.digits n.natAbs

/-- A fraction with its shortest digits. One with a point in reach of its digits has no power of
ten. -/
def realChars (negative : Bool) (magnitude : Binary64) : List Char :=
  let (m, power) := magnitude.shortest
  let size := (Text.digits m).length + power
  Decimal.signed negative
    (if 16 < size ∨ size < -4 then Text.digits m ++ 'e' :: intChars power
    else if 0 ≤ power then magnitude.positional ++ ['.', '0']
    else magnitude.positional)

mutual

def chars : Json → List Char
  | .null => ['n', 'u', 'l', 'l']
  | .bool true => ['t', 'r', 'u', 'e']
  | .bool false => ['f', 'a', 'l', 's', 'e']
  | .int n => intChars n
  | .real negative magnitude => realChars negative magnitude
  | .str s => strChars s
  | .arr [] => ['[', ']']
  | .arr (item :: items) => '[' :: chars item ++ itemChars items ++ [']']
  | .obj [] => ['\x7b', '\x7d']
  | .obj ((name, value) :: members) =>
    '\x7b' :: strChars name ++ ':' :: chars value ++ memberChars members ++ ['\x7d']

/-- The items after the first, each with a comma in front. -/
def itemChars : List Json → List Char
  | [] => []
  | item :: items => ',' :: chars item ++ itemChars items

def memberChars : List (String × Json) → List Char
  | [] => []
  | (name, value) :: members => ',' :: strChars name ++ ':' :: chars value ++ memberChars members

end

def render (j : Json) : String := String.ofList j.chars

end BankReconciliation.Json
