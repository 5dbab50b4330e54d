import BankReconciliation.Text.Encoding

/-! Why a text is not TOML. A failure says what was being read, what was expected and what is wrong
with it, as far as each is known, and is shown with the line on which it was found. -/

namespace BankReconciliation.Toml

inductive Label
  | key | header | list | inlineTable | text
  | basicText | literalText | longBasicText | longLiteralText | escape | shortCode | longCode
  | integer | hexInteger | octalInteger | binaryInteger | fraction
  | moment | time | offset
deriving DecidableEq

def Label.name : Label → String
  | .key => "key"
  | .header => "table header"
  | .list => "array"
  | .inlineTable => "inline table"
  | .text => "string"
  | .basicText => "basic string"
  | .literalText => "literal string"
  | .longBasicText => "multiline basic string"
  | .longLiteralText => "multiline literal string"
  | .escape => "escape sequence"
  | .shortCode => "unicode 4-digit hex code"
  | .longCode => "unicode 8-digit hex code"
  | .integer => "integer"
  | .hexInteger => "hexadecimal integer"
  | .octalInteger => "octal integer"
  | .binaryInteger => "binary integer"
  | .fraction => "floating-point number"
  | .moment => "date-time"
  | .time => "time"
  | .offset => "time offset"

inductive Expected
  | lineFeed
  | mark (s : String)
  | digit | leadingDigit
deriving DecidableEq

def Expected.name : Expected → String
  | .lineFeed => "newline"
  | .mark s => s!"`{s}`"
  | .digit => "digit"
  | .leadingDigit => "leading digit"

inductive Cause
  /-- A key stands for something else already, in the table of the given keys if that is known. -/
  | duplicate (key : String) (table : Option (List String))
  /-- The last of the keys stands for a value that is no table. -/
  | notTable (path : List String) (kind : String)
  | outOfRange | tooDeep | tooLarge | tooSmall
deriving DecidableEq

def Cause.message : Cause → String
  | .duplicate key none => s!"duplicate key `{key}`"
  | .duplicate key (some []) => s!"duplicate key `{key}` in document root"
  | .duplicate key (some table) =>
    s!"duplicate key `{key}` in table `" ++ ".".intercalate table ++ "`"
  | .notTable path kind =>
    "dotted key `" ++ ".".intercalate path ++ s!"` attempted to extend non-table type ({kind})"
  | .outOfRange => "value is out of range"
  | .tooDeep => "recursion limit exceeded"
  | .tooLarge => "number too large to fit in target type"
  | .tooSmall => "number too small to fit in target type"

structure Failure where
  /-- The text that had not been read. -/
  rest : List Char
  /-- Whether no other reading of the text is tried. -/
  final : Bool := false
  label : Option Label := none
  expected : List Expected := []
  cause : Option Cause := none
deriving DecidableEq

abbrev Attempt := Except Failure

def fail {α : Type} (rest : List Char) : Attempt α := .error { rest }

def failFor {α : Type} (cause : Cause) (rest : List Char) : Attempt α :=
  .error { rest, cause := some cause }

def commit {α : Type} (a : Attempt α) : Attempt α :=
  a.mapError fun f => { f with final := true }

/-- Says what was being read, unless that is known more exactly. -/
def labelled {α : Type} (label : Label) (a : Attempt α) : Attempt α :=
  a.mapError fun f => { f with label := f.label <|> some label }

def expecting {α : Type} (expected : List Expected) (a : Attempt α) : Attempt α :=
  a.mapError fun f => { f with expected := f.expected ++ expected }

/-- Another reading of a text, unless the first succeeds or its failure is final. -/
def orElse {α : Type} (a : Attempt α) (b : Unit → Attempt α) : Attempt α :=
  match a with
  | .error f => if f.final then .error f else b ()
  | .ok x => .ok x

def optional {α : Type} (cs : List Char) (a : Attempt (α × List Char)) :
    Attempt (Option α × List Char) :=
  match a with
  | .ok (x, rest) => .ok (some x, rest)
  | .error f => if f.final then .error f else .ok (none, cs)

def spaces (n : Nat) : String := String.ofList (List.replicate n ' ')

/-- The line of a place, from 0, and the place within the line. The end of a text is on the line of
its last character. Before a character of several bytes, bytes are counted. -/
def position (whole : List Char) (index : Nat) : Nat × Nat :=
  let last := min index (whole.length - 1)
  let before := whole.take last
  let line := (before.reverse.takeWhile (· != '\n')).reverse
  let column := match whole[index]? with
    | some c => if c.utf8Size = 1 then line.length else Text.byteLength line
    | none => line.length
  (before.count '\n', column + (index - last))

def marks (whole : List Char) (index : Nat) : String :=
  String.ofList (List.replicate ((whole[index]?.map Char.utf8Size).getD 1) '^')

def Failure.reason (f : Failure) : String :=
  "\n".intercalate
    ((f.label.map fun l => s!"invalid {l.name}").toList ++
      (if f.expected = [] then [] else
        ["expected " ++ ", ".intercalate (f.expected.map Expected.name)]) ++
      (f.cause.map Cause.message).toList)

def Failure.message (whole : List Char) (f : Failure) : String :=
  let index := whole.length - f.rest.length
  let (line, column) := position whole index
  let number := toString (line + 1)
  let margin := spaces (number.length + 1)
  let content := String.ofList ((whole.splitOnP (· == '\n')).getD line [])
  s!"TOML parse error at line {number}, column {column + 1}\n{margin}|\n{number} | {content}\n" ++
    s!"{margin}|{spaces (column + 1)}{marks whole index}\n{f.reason}\n"

end BankReconciliation.Toml
