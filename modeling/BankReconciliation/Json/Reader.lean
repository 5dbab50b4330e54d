import BankReconciliation.Json.Basic
import BankReconciliation.Text.Encoding

/-! Reading JSON text. A failure names its cause and the place: the line, and the byte within it,
up to which the text had been read or looked at. -/

namespace BankReconciliation.Json

inductive Cause
  | endInValue | endInString | endInList | endInObject
  | expectedWord | expectedValue | expectedColon | expectedListEnd | expectedObjectEnd
  | invalidNumber | numberOutOfRange
  | invalidEscape | loneSurrogate | unfinishedEscape | controlCharacter
  | tooDeep | trailingCharacters | trailingComma | keyNotText
deriving DecidableEq

def Cause.message : Cause → String
  | .endInValue => "EOF while parsing a value"
  | .endInString => "EOF while parsing a string"
  | .endInList => "EOF while parsing a list"
  | .endInObject => "EOF while parsing an object"
  | .expectedWord => "expected ident"
  | .expectedValue => "expected value"
  | .expectedColon => "expected `:`"
  | .expectedListEnd => "expected `,` or `]`"
  | .expectedObjectEnd => "expected `,` or `\x7d`"
  | .invalidNumber => "invalid number"
  | .numberOutOfRange => "number out of range"
  | .invalidEscape => "invalid escape"
  | .loneSurrogate => "lone leading surrogate in hex escape"
  | .unfinishedEscape => "unexpected end of hex escape"
  | .controlCharacter => "control character (\\u0000-\\u001F) found while parsing a string"
  | .tooDeep => "recursion limit exceeded"
  | .trailingCharacters => "trailing characters"
  | .trailingComma => "trailing comma"
  | .keyNotText => "key must be a string"

structure Failure where
  cause : Cause
  rest : List Char
  /-- The number of its bytes that had been looked at. -/
  looked : Nat

/-- What has been read and the text after it, or a failure. -/
abbrev Attempt := Except Failure

def failAt {α : Type} (cause : Cause) (rest : List Char) : Attempt α :=
  .error ⟨cause, rest, 0⟩

def failPeek {α : Type} (cause : Cause) (rest : List Char) : Attempt α :=
  .error ⟨cause, rest, 1⟩

def isSpace (c : Char) : Bool := c == ' ' || c == '\n' || c == '\t' || c == '\r'

def skipSpace (cs : List Char) : List Char := cs.dropWhile isSpace

def word (value : Json) : List Char → List Char → Attempt (Json × List Char)
  | [], cs => .ok (value, cs)
  | _ :: _, [] => failAt .endInValue []
  | w :: ws, c :: cs => if w = c then word value ws cs else failPeek .expectedWord (c :: cs)

def wholeNumber? (negative : Bool) (n : Nat) : Option Json :=
  if negative then
    if n = 0 ∨ twoTo 63 < n then (Binary64.nearest? n 1).map (.real true) else some (.int (-n))
  else some (.int n)

/-- The digits of a number that fit into 64 bits, and the power of ten that stands for the
others. -/
structure Significand where
  digits : Nat := 0
  power : Int := 0
deriving DecidableEq

/-- Takes a digit before the point. Once one does not fit, the following ones only count. -/
def Significand.addWhole (s : Significand) (d : Nat) : Significand :=
  if s.power = 0 ∧ s.digits * 10 + d < twoTo 64 then { s with digits := s.digits * 10 + d }
  else { s with power := s.power + 1 }

/-- Takes the digits after the point, up to the first that does not fit. -/
def Significand.addPlaces (s : Significand) : List Nat → Significand
  | [] => s
  | d :: ds =>
    if s.digits * 10 + d < twoTo 64 then addPlaces ⟨s.digits * 10 + d, s.power - 1⟩ ds else s

def digitValues (cs : List Char) : List Nat := cs.map fun c => c.toNat - '0'.toNat

def largestPower : Nat := twoTo 31 - 1

/-- The text after the digit that takes a number past the largest power, if there is one. -/
def afterOverflow? (n : Nat) : List Char → Option (List Char)
  | [] => none
  | c :: cs =>
    match Text.digitValue? c with
    | none => none
    | some d => if largestPower < n * 10 + d then some cs else afterOverflow? (n * 10 + d) cs

/-- Reads the power of ten after `e`. There is none when it is too large and that does not matter:
the number is zero, or the power takes it to zero. -/
def power (isZero : Bool) (cs : List Char) : Attempt (Option Int × List Char) :=
  let (sign, cs) : Int × List Char := match cs with
    | '+' :: cs => (1, cs)
    | '-' :: cs => (-1, cs)
    | cs => (1, cs)
  match cs with
  | [] => failAt .endInValue []
  | c :: _ =>
    if c.isDigit then
      let rest := cs.dropWhile Char.isDigit
      match afterOverflow? 0 cs with
      | none => .ok (some (sign * Text.digitsValue (cs.takeWhile Char.isDigit)), rest)
      | some after =>
        if isZero || sign == -1 then .ok (none, rest) else failAt .numberOutOfRange after
    else failPeek .invalidNumber cs

def isPowerMark (c : Char) : Bool := c == 'e' || c == 'E'

def fraction (negative : Bool) (s : Significand) (power : Int) (rest : List Char) :
    Attempt (Json × List Char) :=
  match Binary64.combine? s.digits (s.power + power) with
  | some b => .ok (.real negative b, rest)
  | none => failAt .numberOutOfRange rest

def afterPlaces (negative : Bool) (s : Significand) (cs : List Char) : Attempt (Json × List Char) :=
  match cs with
  | c :: after =>
    if isPowerMark c then do
      match ← power (s.digits == 0) after with
      | (some p, rest) => fraction negative s p rest
      | (none, rest) => .ok (.real negative .zero, rest)
    else fraction negative s 0 cs
  | [] => fraction negative s 0 []

def afterWhole (negative : Bool) (whole cs : List Char) : Attempt (Json × List Char) :=
  let s := (digitValues whole).foldl Significand.addWhole {}
  match cs with
  | '.' :: rest =>
    let places := rest.takeWhile Char.isDigit
    let rest := rest.dropWhile Char.isDigit
    if places = [] then
      match rest with
      | [] => failPeek .endInValue []
      | rest => failPeek .invalidNumber rest
    else afterPlaces negative (s.addPlaces (digitValues places)) rest
  | c :: _ =>
    if isPowerMark c then afterPlaces negative s cs
    else if s.power ≠ 0 then fraction negative s 0 cs
    else match wholeNumber? negative s.digits with
      | some j => .ok (j, cs)
      | none => failAt .numberOutOfRange cs
  | [] =>
    if s.power ≠ 0 then fraction negative s 0 []
    else match wholeNumber? negative s.digits with
      | some j => .ok (j, [])
      | none => failAt .numberOutOfRange []

def number (negative : Bool) (cs : List Char) : Attempt (Json × List Char) :=
  match cs with
  | [] => failAt .endInValue []
  | '0' :: rest =>
    if (rest.head?.map Char.isDigit).getD false then failPeek .invalidNumber rest
    else afterWhole negative ['0'] rest
  | c :: _ =>
    if c.isDigit then afterWhole negative (cs.takeWhile Char.isDigit) (cs.dropWhile Char.isDigit)
    else failPeek .invalidNumber cs

/-- Reads the four digits of an escape. They are taken for four bytes, whatever they are. -/
def hexUnit (cs : List Char) : Attempt (Nat × List Char) :=
  if Text.byteLength (cs.take 4) < 4 then failAt .endInString []
  else match (cs.take 4).mapM Text.hexValue? with
    | some ds => .ok (ds.foldl (fun n d => n * 16 + d) 0, cs.drop 4)
    | none => .error ⟨.invalidEscape, cs, 4⟩

/-- Reads an escape after `\u`; a leading surrogate needs a trailing one. -/
def hexEscape (cs : List Char) : Attempt (Char × List Char) := do
  let (n, rest) ← hexUnit cs
  if 0xDC00 ≤ n ∧ n < 0xE000 then failAt .loneSurrogate rest
  else if 0xD800 ≤ n ∧ n < 0xDC00 then
    match rest with
    | '\\' :: 'u' :: rest => do
      let (m, rest) ← hexUnit rest
      if 0xDC00 ≤ m ∧ m < 0xE000 then
        .ok (Char.ofNat (0x10000 + (n - 0xD800) * 0x400 + (m - 0xDC00)), rest)
      else failAt .loneSurrogate rest
    | [] => failAt .endInString []
    | '\\' :: [] => failAt .endInString []
    | '\\' :: rest => failPeek .unfinishedEscape rest
    | rest => failPeek .unfinishedEscape rest
  else .ok (Char.ofNat n, rest)

def escape (cs : List Char) : Attempt (Char × List Char) :=
  match cs with
  | [] => failAt .endInString []
  | '"' :: rest => .ok ('"', rest)
  | '\\' :: rest => .ok ('\\', rest)
  | '/' :: rest => .ok ('/', rest)
  | 'b' :: rest => .ok ('\x08', rest)
  | 'f' :: rest => .ok ('\x0c', rest)
  | 'n' :: rest => .ok ('\n', rest)
  | 'r' :: rest => .ok ('\r', rest)
  | 't' :: rest => .ok ('\t', rest)
  | 'u' :: rest => hexEscape rest
  | rest => failPeek .invalidEscape rest

/-- Reads a text after its opening quote; `seen` holds its characters in reverse. -/
def text : (fuel : Nat) → (seen : List Char) → List Char → Attempt (String × List Char)
  | 0, _, cs => failAt .tooDeep cs
  | fuel + 1, seen, cs =>
    match cs with
    | [] => failAt .endInString []
    | '"' :: rest => .ok (String.ofList seen.reverse, rest)
    | '\\' :: rest => do
      let (c, rest) ← escape rest
      text fuel (c :: seen) rest
    | c :: rest =>
      if c.toNat < 0x20 then failAt .controlCharacter rest else text fuel (c :: seen) rest

mutual

/-- Reads a value; at most `depth` lists and objects may be open around its parts. -/
def value : (fuel depth : Nat) → List Char → Attempt (Json × List Char)
  | 0, _, cs => failAt .tooDeep cs
  | fuel + 1, depth, cs =>
    match skipSpace cs with
    | [] => failPeek .endInValue []
    | 'n' :: rest => word .null ['u', 'l', 'l'] rest
    | 't' :: rest => word (.bool true) ['r', 'u', 'e'] rest
    | 'f' :: rest => word (.bool false) ['a', 'l', 's', 'e'] rest
    | '-' :: rest => number true rest
    | '"' :: rest => do
      let (s, rest) ← text (rest.length + 1) [] rest
      .ok (.str s, rest)
    | '[' :: rest =>
      if depth = 0 then failPeek .tooDeep ('[' :: rest)
      else do
        let (items, rest) ← items fuel (depth - 1) true rest
        .ok (.arr items, rest)
    | '\x7b' :: rest =>
      if depth = 0 then failPeek .tooDeep ('\x7b' :: rest)
      else do
        let (members, rest) ← members fuel (depth - 1) true rest
        .ok (ofMembers members, rest)
    | c :: rest =>
      if c.isDigit then number false (c :: rest) else failPeek .expectedValue (c :: rest)

/-- Reads the items of a list up to its end; `first` says that none has been read yet. -/
def items : (fuel depth : Nat) → (first : Bool) → List Char → Attempt (List Json × List Char)
  | 0, _, _, cs => failAt .tooDeep cs
  | fuel + 1, depth, first, cs =>
    match skipSpace cs, first with
    | [], _ => failPeek .endInList []
    | ']' :: rest, _ => .ok ([], rest)
    | ',' :: rest, false =>
      match skipSpace rest with
      | ']' :: rest => failPeek .trailingComma (']' :: rest)
      | [] => failPeek .endInValue []
      | rest => do
        let (item, rest) ← value fuel depth rest
        let (others, rest) ← items fuel depth false rest
        .ok (item :: others, rest)
    | rest, true => do
      let (item, rest) ← value fuel depth rest
      let (others, rest) ← items fuel depth false rest
      .ok (item :: others, rest)
    | rest, false => failPeek .expectedListEnd rest

def members : (fuel depth : Nat) → (first : Bool) → List Char → Attempt (Members Json × List Char)
  | 0, _, _, cs => failAt .tooDeep cs
  | fuel + 1, depth, first, cs =>
    match skipSpace cs, first with
    | [], _ => failPeek .endInObject []
    | '\x7d' :: rest, _ => .ok ([], rest)
    | ',' :: rest, false =>
      match skipSpace rest with
      | '\x7d' :: rest => failPeek .trailingComma ('\x7d' :: rest)
      | [] => failPeek .endInValue []
      | rest => member fuel depth rest
    | rest, true => member fuel depth rest
    | rest, false => failPeek .expectedObjectEnd rest

def member : (fuel depth : Nat) → List Char → Attempt (Members Json × List Char)
  | 0, _, cs => failAt .tooDeep cs
  | fuel + 1, depth, cs =>
    match cs with
    | '"' :: rest => do
      let (name, rest) ← text (rest.length + 1) [] rest
      match skipSpace rest with
      | ':' :: rest =>
        let (v, rest) ← value fuel depth rest
        let (others, rest) ← members fuel depth false rest
        .ok ((name, v) :: others, rest)
      | [] => failPeek .endInObject []
      | rest => failPeek .expectedColon rest
    | cs => failPeek .keyNotText cs

end

/-- The number of lists and objects that may be open at once. -/
def depthLimit : Nat := 127

def document (cs : List Char) : Attempt Json := do
  let (v, rest) ← value (3 * cs.length + 3) depthLimit cs
  match skipSpace rest with
  | [] => .ok v
  | rest => failPeek .trailingCharacters rest

/-- A failure with the line, and the byte within the line, at which it was found. -/
structure Located where
  cause : Cause
  line : Nat
  column : Nat
deriving DecidableEq

/-- Line and byte after the given bytes. -/
def place (bytes : Text.Bytes) : Nat × Nat :=
  bytes.foldl (fun (line, column) (b : UInt8) =>
    if b = 0x0A then (line + 1, 0) else (line, column + 1)) (1, 0)

def Failure.locate (whole : List Char) (f : Failure) : Located :=
  let seen := whole.take (whole.length - f.rest.length)
  let (line, column) :=
    place (Text.encodeUtf8 seen ++ (Text.encodeUtf8 f.rest).take f.looked)
  ⟨f.cause, line, column⟩

def Located.message (l : Located) : String :=
  s!"{l.cause.message} at line {l.line} column {l.column}"

def parse (s : String) : Except Located Json :=
  match document s.toList with
  | .ok j => .ok j
  | .error f => .error (f.locate s.toList)

end BankReconciliation.Json
