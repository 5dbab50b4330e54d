import BankReconciliation.Settings.Toml.Moment
import BankReconciliation.Settings.Toml.Number
import BankReconciliation.Settings.Toml.Table

/-! The text of TOML documents: values, lists, tables in one line, headers, and pairs of keys and
values. -/

namespace BankReconciliation.Toml

def asText {α : Type} (a : Attempt α) : Attempt α :=
  labelled .text (expecting [.mark "\"", .mark "'"] a)

def word (w : String) (v : SettingValue) (cs : List Char) : Attempt (Value × List Char) :=
  if w.toList.isPrefixOf cs then .ok (.plain v, cs.drop w.length) else fail cs

def plain (a : Attempt (SettingValue × List Char)) : Attempt (Value × List Char) :=
  a.map fun (v, rest) => (.plain v, rest)

def startsNumber (c : Char) : Bool := c.isDigit || c == '+' || c == '-'

def numberOrMoment (cs : List Char) : Attempt (Value × List Char) :=
  orElse ((moment cs).map fun (s, rest) => (.moment s, rest)) fun _ =>
    orElse (plain (fraction cs)) fun _ => plain (integer cs)

def simpleValue (cs : List Char) : Attempt (Value × List Char) :=
  match cs with
  | [] => fail []
  | c :: _ =>
    if c = '"' ∨ c = '\'' then (quotedText cs).map fun (s, rest) => (.plain (.text s), rest)
    else if startsNumber c then numberOrMoment cs
    else match c with
      | '_' => expecting [.leadingDigit] (plain (integer cs))
      | '.' => expecting [.leadingDigit] (plain (fraction cs))
      | 't' => asText (commit (word "true" (.bool true) cs))
      | 'f' => asText (commit (word "false" (.bool false) cs))
      | 'i' => asText (word "inf" (.infinite false) cs)
      | 'n' => asText (word "nan" .notNumber cs)
      | _ => asText (fail cs)

abbrev Pair := List String × Value

def tableOf (pairs : List Pair) : Except Cause Table :=
  pairs.foldlM (fun t (key, v) => t.add .inlinePair none key v) (.empty .header)

def closing (c : Char) (label : Label) (cs : List Char) : Attempt (List Char) :=
  commit (labelled label (expecting [.mark (String.singleton c)] (mark c cs)))

def equals (cs : List Char) : Attempt (List Char) :=
  commit (expecting [.mark ".", .mark "="] (mark '=' cs))

mutual

/-- Reads a value; `depth` lists and tables are open around it. -/
def value : (fuel depth : Nat) → List Char → Attempt (Value × List Char)
  | 0, _, cs => fail cs
  | fuel + 1, depth, cs =>
    match cs with
    | '[' :: rest =>
      if depthLimit ≤ depth + 1 then commit (failFor .tooDeep cs)
      else do
        let rest ← commit (items fuel (depth + 1) rest)
        .ok (.plain .sequence, ← closing ']' .list rest)
    | '\x7b' :: rest =>
      if depthLimit ≤ depth + 1 then commit (failFor .tooDeep cs)
      else do
        let (pairs, end_) ← commit (pairs fuel (depth + 1) rest)
        let _ ← match tableOf pairs with
          | .ok t => .ok t
          | .error cause => commit (failFor cause rest)
        .ok (.plain .table, ← closing '\x7d' .inlineTable (skipSpace end_))
    | cs => simpleValue cs

def items : (fuel depth : Nat) → List Char → Attempt (List Char)
  | 0, _, cs => fail cs
  | fuel + 1, depth, cs =>
    if cs.head? = some ']' then .ok cs
    else do
      match ← optional cs (item fuel depth cs) with
      | (none, rest) => skipBlank rest
      | (some (), rest) =>
        let rest ← moreItems fuel depth rest
        skipBlank (if rest.head? = some ',' then rest.tail else rest)

def item : (fuel depth : Nat) → List Char → Attempt (Unit × List Char)
  | 0, _, cs => fail cs
  | fuel + 1, depth, cs => do
    let (_, rest) ← value fuel depth (← skipBlank cs)
    .ok ((), ← skipBlank rest)

def moreItems : (fuel depth : Nat) → List Char → Attempt (List Char)
  | 0, _, cs => fail cs
  | fuel + 1, depth, cs =>
    match cs with
    | ',' :: rest => do
      match ← optional cs (item fuel depth rest) with
      | (none, rest) => .ok rest
      | (some (), rest) => moreItems fuel depth rest
    | cs => .ok cs

def pairs : (fuel depth : Nat) → List Char → Attempt (List Pair × List Char)
  | 0, _, cs => fail cs
  | fuel + 1, depth, cs => do
    match ← optional cs (pair fuel depth cs) with
    | (none, rest) => .ok ([], rest)
    | (some p, rest) =>
      let (ps, rest) ← morePairs fuel depth rest
      .ok (p :: ps, rest)

def pair : (fuel depth : Nat) → List Char → Attempt (Pair × List Char)
  | 0, _, cs => fail cs
  | fuel + 1, depth, cs => do
    let (key, rest) ← key cs
    commit do
      let (v, rest) ← value fuel depth (skipSpace (← equals rest))
      .ok ((key, v), skipSpace rest)

def morePairs : (fuel depth : Nat) → List Char → Attempt (List Pair × List Char)
  | 0, _, cs => fail cs
  | fuel + 1, depth, cs =>
    match cs with
    | ',' :: rest => do
      match ← optional cs (pair fuel depth rest) with
      | (none, rest) => .ok ([], rest)
      | (some p, rest) =>
        let (ps, rest) ← morePairs fuel depth rest
        .ok (p :: ps, rest)
    | cs => .ok ([], cs)

end

/-- Fails at the start of what cannot be added to a document. -/
def orFailAt {α : Type} (cs : List Char) (a : Except Cause α) : Attempt α :=
  match a with
  | .ok x => .ok x
  | .error cause => failFor cause cs

def line (d : Document) (cs : List Char) : Attempt (Document × List Char) := do
  let (key, rest) ← key cs
  let rest ← equals rest
  let (v, rest) ← value (4 * rest.length + 4) 0 (skipSpace rest)
  let rest ← restOfLine rest
  .ok (← orFailAt cs (d.add key v), rest)

def headerEnd (listed : Bool) (cs : List Char) : Attempt (List Char) :=
  expecting [.mark ".", .mark (if listed then "]]" else "]")]
    (match listed, cs with
    | true, ']' :: ']' :: rest => .ok rest
    | false, ']' :: rest => .ok rest
    | _, cs => fail cs)

/-- Reads the header of a table. Doubled brackets stand for the next table of a list. -/
def headerLine (d : Document) (cs : List Char) : Attempt (Document × List Char) :=
  labelled .header do
    let (listed, rest) ← match cs with
      | '[' :: '[' :: rest => .ok (true, rest)
      | '[' :: c :: rest => .ok (false, c :: rest)
      | cs => fail cs
    let (key, rest) ← key rest
    let rest ← headerEnd listed rest
    let rest ← restOfLine rest
    .ok (← orFailAt cs (d.enter key listed), rest)

def lines : (fuel : Nat) → Document → List Char → Attempt Document
  | 0, _, cs => fail cs
  | fuel + 1, d, cs =>
    match skipSpace cs with
    | [] => .ok d
    | '#' :: rest => do lines fuel d (← lineEnd (skipComment ('#' :: rest)))
    | '\n' :: rest => lines fuel d rest
    | '\r' :: '\n' :: rest => lines fuel d rest
    | '\r' :: rest => fail ('\r' :: rest)
    | '[' :: rest => do
      let (d, rest) ← headerLine d ('[' :: rest)
      lines fuel d rest
    | rest => do
      let (d, rest) ← line d rest
      lines fuel d rest

def document (cs : List Char) : Attempt Table := do
  let start := match cs with
    | '\uFEFF' :: rest => rest
    | cs => cs
  orFailAt [] (← lines (cs.length + 1) {} start).whole

def parse (content : String) : Except String (List (String × SettingValue)) :=
  let cs := content.toList
  match document cs with
  | .ok t => .ok (t.entries.map fun (name, item) => (name, item.setting))
  | .error f => .error (f.message cs)

end BankReconciliation.Toml
