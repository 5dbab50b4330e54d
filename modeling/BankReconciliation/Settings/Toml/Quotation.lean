import BankReconciliation.Settings.Toml.Trivia
import BankReconciliation.Text.Digits

/-! Quoted texts, of one line or of several, with escapes between double quotes and without between
single ones; and keys, whose parts may be quoted. -/

namespace BankReconciliation.Toml

def escapedCode (count : Nat) (label : Label) (cs : List Char) : Attempt (Char × List Char) :=
  commit (labelled label
    (match (cs.take count).mapM Text.hexValue? with
    | none => fail cs
    | some ds =>
      let n := ds.foldl (fun n d => n * 16 + d) 0
      if ds.length < count then fail cs
      else if n.isValidChar then .ok (Char.ofNat n, cs.drop count)
      else failFor .outOfRange cs))

/-- The place after a character that stands in the way, or before it when it has several bytes. -/
def after (cs : List Char) : List Char :=
  match cs with
  | c :: rest => if c.utf8Size = 1 then rest else c :: rest
  | [] => []

def escapeMarks : List Expected :=
  ["b", "f", "n", "r", "t", "u", "U", "\\", "\""].map .mark

def escape (cs : List Char) : Attempt (Char × List Char) :=
  match cs with
  | 'b' :: rest => .ok ('\x08', rest)
  | 't' :: rest => .ok ('\t', rest)
  | 'n' :: rest => .ok ('\n', rest)
  | 'f' :: rest => .ok ('\x0c', rest)
  | 'r' :: rest => .ok ('\r', rest)
  | '"' :: rest => .ok ('"', rest)
  | '\\' :: rest => .ok ('\\', rest)
  | 'u' :: rest => escapedCode 4 .shortCode rest
  | 'U' :: rest => escapedCode 8 .longCode rest
  | cs => commit (labelled .escape (expecting escapeMarks (fail (after cs))))

def basicText : (fuel : Nat) → (seen : List Char) → List Char → Attempt (String × List Char)
  | 0, _, cs => fail cs
  | fuel + 1, seen, cs =>
    match cs with
    | '"' :: rest => .ok (String.ofList seen.reverse, rest)
    | '\\' :: next :: rest => do
      let (c, rest) ← escape (next :: rest)
      basicText fuel (c :: seen) rest
    | c :: rest =>
      if isPrintable c && c != '\\' then basicText fuel (c :: seen) rest
      else commit (labelled .basicText (fail cs))
    | [] => commit (labelled .basicText (fail []))

def literalText (cs : List Char) : Attempt (String × List Char) :=
  let s := cs.takeWhile fun c => isPrintable c && c != '\''
  match cs.drop s.length with
  | '\'' :: rest => .ok (String.ofList s, rest)
  | rest => commit (labelled .literalText (fail rest))

def skipEmptyLines : List Char → List Char
  | '\r' :: '\n' :: cs => skipEmptyLines cs
  | c :: cs => if isSpace c || c == '\n' then skipEmptyLines cs else c :: cs
  | [] => []

def afterLineFeed? (cs : List Char) : Option (List Char) := (lineFeed cs).toOption

/-- Reads a character or an escape; none where a quote or something else stands. A backslash at the
end of a line takes that and all white space after it away. -/
def longBasicPart (cs : List Char) : Attempt (Option (List Char × List Char)) :=
  match cs with
  | '\\' :: rest =>
    match afterLineFeed? (skipSpace rest), rest with
    | some rest, _ => .ok (some ([], skipEmptyLines rest))
    | none, [] => .ok none
    | none, rest => do
      let (c, rest) ← escape rest
      .ok (some ([c], rest))
  | c :: rest =>
    match afterLineFeed? cs with
    | some rest => .ok (some (['\n'], rest))
    | none => .ok (if isPrintable c && c != '"' then some ([c], rest) else none)
  | [] => .ok none

def longLiteralPart (cs : List Char) : Attempt (Option (List Char × List Char)) :=
  match afterLineFeed? cs, cs with
  | some rest, _ => .ok (some (['\n'], rest))
  | none, c :: rest => .ok (if isPrintable c && c != '\'' then some ([c], rest) else none)
  | none, [] => .ok none

/-- Whether a part of a text starts at a place. A part that fails to be read fails the text there,
before the part. -/
def startsPart (part : List Char → Attempt (Option (List Char × List Char)))
    (cs : List Char) : Attempt Bool :=
  match part cs with
  | .ok found => .ok found.isSome
  | .error f => .error { f with rest := cs }

/-- The number of quotes, one or two, that belong to the text although it may go on with quotes. -/
def innerQuotes (quote : Char) (part : List Char → Attempt (Option (List Char × List Char)))
    (cs : List Char) : Attempt Nat := do
  let quotes := (cs.takeWhile (· == quote)).length
  if 2 ≤ quotes then
    if ← startsPart part (cs.drop 2) then return 2
  if 1 ≤ quotes then
    if ← startsPart part (cs.drop 1) then return 1
  return min 2 (quotes - 3)

def longText (quote : Char) (part : List Char → Attempt (Option (List Char × List Char))) :
    (fuel : Nat) → (seen : List Char) → List Char → Attempt (String × List Char)
  | 0, _, cs => fail cs
  | fuel + 1, seen, cs => do
    match ← part cs with
    | some (s, rest) => longText quote part fuel (s ++ seen) rest
    | none =>
      let inner ← innerQuotes quote part cs
      let rest := cs.drop inner
      let seen := List.replicate inner quote ++ seen
      if (rest.take 3).length = 3 ∧ (rest.take 3).all (· == quote) then
        .ok (String.ofList seen.reverse, rest.drop 3)
      else if inner = 0 then commit (fail cs)
      else longText quote part fuel seen rest

/-- Reads a text of several lines after its opening quotes. A line end right after them does not
count. -/
def longFrom (label : Label) (quote : Char)
    (part : List Char → Attempt (Option (List Char × List Char))) (cs : List Char) :
    Attempt (String × List Char) :=
  labelled label (longText quote part (cs.length + 1) [] ((afterLineFeed? cs).getD cs))

def quotedText (cs : List Char) : Attempt (String × List Char) :=
  match cs with
  | '"' :: '"' :: '"' :: rest => longFrom .longBasicText '"' longBasicPart rest
  | '"' :: rest => basicText (rest.length + 1) [] rest
  | '\'' :: '\'' :: '\'' :: rest => longFrom .longLiteralText '\'' longLiteralPart rest
  | '\'' :: rest => literalText rest
  | cs => fail cs

def isBareChar (c : Char) : Bool := c.isAlphanum || c == '_' || c == '-'

def keyPart (cs : List Char) : Attempt (String × List Char) := do
  let cs := skipSpace cs
  let (part, rest) ← match cs with
    | '"' :: rest => basicText (rest.length + 1) [] rest
    | '\'' :: rest => literalText rest
    | cs =>
      let s := cs.takeWhile isBareChar
      if s = [] then fail cs else .ok (String.ofList s, cs.drop s.length)
  .ok (part, skipSpace rest)

/-- Reads the parts of a key after the first. A point that no part follows is not read. -/
def keyTail : (fuel : Nat) → List Char → Attempt (List String × List Char)
  | 0, cs => .ok ([], cs)
  | fuel + 1, cs =>
    match cs with
    | '.' :: rest => do
      match ← optional cs (keyPart rest) with
      | (some part, rest) =>
        let (parts, rest) ← keyTail fuel rest
        .ok (part :: parts, rest)
      | (none, rest) => .ok ([], rest)
    | cs => .ok ([], cs)

def depthLimit : Nat := 80

def key (cs : List Char) : Attempt (List String × List Char) := do
  let (parts, rest) ← labelled .key do
    let (part, rest) ← keyPart cs
    let (parts, rest) ← keyTail rest.length rest
    .ok (part :: parts, rest)
  if depthLimit ≤ parts.length then failFor .tooDeep cs else .ok (parts, rest)

end BankReconciliation.Toml
