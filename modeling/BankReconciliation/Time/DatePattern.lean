import BankReconciliation.Time.DateFields
import BankReconciliation.Time.Timestamp

/-! Date patterns such as `%d/%m/%Y`, by which the statement files of a bank write their days.
White space may stand before every number, and the whole text has to match. -/

namespace BankReconciliation.DatePattern

inductive Place
  | year | century | yearOfCentury | isoYear | isoYearOfCentury | quarter | month | day | ordinal
  | sundayWeek | mondayWeek | isoWeek | daysFromSunday | daysFromMonday
  | hour | hour12 | minute | second | nano | epochSecond
deriving DecidableEq

namespace Place

/-- Reads the number: years may carry a sign, and every other number has a greatest width. -/
def read? : Place → List Char → Option (Int × List Char)
  | .year, cs | .isoYear, cs => Timestamp.year? cs
  | .epochSecond, cs => (Timestamp.field? cs.length cs).map fun (n, rest) => (n, rest)
  | .nano, cs => (Timestamp.field? 9 cs).map fun (n, rest) => (n, rest)
  | .ordinal, cs => (Timestamp.field? 3 cs).map fun (n, rest) => (n, rest)
  | .quarter, cs | .daysFromSunday, cs | .daysFromMonday, cs =>
    (Timestamp.field? 1 cs).map fun (n, rest) => (n, rest)
  | _, cs => (Timestamp.field? 2 cs).map fun (n, rest) => (n, rest)

def inside? (field : DateField) (low high n : Int) : Option (List (DateField × Int)) :=
  if low ≤ n ∧ n ≤ high then some [(field, n)] else none

def facts? : Place → Int → Option (List (DateField × Int))
  | .year, n => some [(.year, n)]
  | .century, n => some [(.century, n)]
  | .yearOfCentury, n => some [(.yearOfCentury, n)]
  | .isoYear, n => some [(.isoYear, n)]
  | .isoYearOfCentury, n => some [(.isoYearOfCentury, n)]
  | .quarter, n => inside? .quarter 1 4 n
  | .month, n => inside? .month 1 12 n
  | .day, n => inside? .day 1 31 n
  | .ordinal, n => inside? .ordinal 1 366 n
  | .sundayWeek, n => inside? .sundayWeek 0 53 n
  | .mondayWeek, n => inside? .mondayWeek 0 53 n
  | .isoWeek, n => inside? .isoWeek 1 53 n
  | .daysFromSunday, n => inside? .weekday 0 6 n
  | .daysFromMonday, n => if 1 ≤ n ∧ n ≤ 7 then some [(.weekday, n % 7)] else none
  | .hour, n => if n ≤ 23 then some [(.half, n / 12), (.hourOfHalf, n % 12)] else none
  | .hour12, n => if 1 ≤ n ∧ n ≤ 12 then some [(.hourOfHalf, n % 12)] else none
  | .minute, n => inside? .minute 0 59 n
  | .second, n => inside? .second 0 60 n
  | .nano, n => some [(.nano, n)]
  | .epochSecond, n => inside? .epochSecond 0 (twoTo 63 - 1) n

end Place

inductive Item
  | literal (c : Char)
  | space
  | number (place : Place)
  | monthName (long : Bool)
  | weekdayName (long : Bool)
  | halfName
  /-- A point and any digits of the second, or nothing. -/
  | fraction
  /-- A point and a fixed number of digits, or nothing. -/
  | pointedDigits (count : Nat)
  | fractionDigits (count : Nat)
  | zone
  | laxZone
  | zoneName
  | timestamp
  | unknown
deriving DecidableEq

def specifier : Char → List Item
  | 'Y' => [.number .year]
  | 'C' => [.number .century]
  | 'y' => [.number .yearOfCentury]
  | 'G' => [.number .isoYear]
  | 'g' => [.number .isoYearOfCentury]
  | 'q' => [.number .quarter]
  | 'm' => [.number .month]
  | 'b' | 'h' => [.monthName false]
  | 'B' => [.monthName true]
  | 'd' | 'e' => [.number .day]
  | 'a' => [.weekdayName false]
  | 'A' => [.weekdayName true]
  | 'w' => [.number .daysFromSunday]
  | 'u' => [.number .daysFromMonday]
  | 'U' => [.number .sundayWeek]
  | 'W' => [.number .mondayWeek]
  | 'V' => [.number .isoWeek]
  | 'j' => [.number .ordinal]
  | 'H' | 'k' => [.number .hour]
  | 'I' | 'l' => [.number .hour12]
  | 'P' | 'p' => [.halfName]
  | 'M' => [.number .minute]
  | 'S' => [.number .second]
  | 'f' => [.number .nano]
  | 's' => [.number .epochSecond]
  | 'D' | 'x' => [.number .month, .literal '/', .number .day, .literal '/', .number .yearOfCentury]
  | 'F' => [.number .year, .literal '-', .number .month, .literal '-', .number .day]
  | 'v' => [.number .day, .literal '-', .monthName false, .literal '-', .number .year]
  | 'R' => [.number .hour, .literal ':', .number .minute]
  | 'T' | 'X' => [.number .hour, .literal ':', .number .minute, .literal ':', .number .second]
  | 'r' => [.number .hour12, .literal ':', .number .minute, .literal ':', .number .second, .space,
      .halfName]
  | 'c' => [.weekdayName false, .space, .monthName false, .space, .number .day, .space,
      .number .hour, .literal ':', .number .minute, .literal ':', .number .second, .space,
      .number .year]
  | 'z' => [.zone]
  | 'Z' => [.zoneName]
  | '+' => [.timestamp]
  | 'n' | 't' => [.space]
  | '%' => [.literal '%']
  | _ => [.unknown]

/-- The items of a letter after a padding mark, which only a single number may have. -/
def padded (c : Char) : List Item :=
  match specifier c with
  | [.number place] => [.number place]
  | _ => [.unknown]

def items : List Char → List Item
  | [] => []
  | '%' :: '-' :: c :: rest => padded c ++ items rest
  | '%' :: '_' :: c :: rest => padded c ++ items rest
  | '%' :: '0' :: c :: rest => padded c ++ items rest
  | '%' :: '#' :: 'z' :: rest => .laxZone :: items rest
  | '%' :: ':' :: 'z' :: rest => .zone :: items rest
  | '%' :: ':' :: ':' :: 'z' :: rest => .zone :: items rest
  | '%' :: ':' :: ':' :: ':' :: 'z' :: rest => .zone :: items rest
  | '%' :: '.' :: 'f' :: rest => .fraction :: items rest
  | '%' :: '.' :: '3' :: 'f' :: rest => .pointedDigits 3 :: items rest
  | '%' :: '.' :: '6' :: 'f' :: rest => .pointedDigits 6 :: items rest
  | '%' :: '.' :: '9' :: 'f' :: rest => .pointedDigits 9 :: items rest
  | '%' :: '3' :: 'f' :: rest => .fractionDigits 3 :: items rest
  | '%' :: '6' :: 'f' :: rest => .fractionDigits 6 :: items rest
  | '%' :: '9' :: 'f' :: rest => .fractionDigits 9 :: items rest
  | '%' :: c :: rest => specifier c ++ items rest
  | ['%'] => [.unknown]
  | c :: rest => (if Text.isBlank c then .space else .literal c) :: items rest

def monthNames : List String := ["january", "february", "march", "april", "may", "june", "july",
  "august", "september", "october", "november", "december"]

def weekdayNames : List String := ["sunday", "monday", "tuesday", "wednesday", "thursday", "friday",
  "saturday"]

/-- The position of the name that the text starts with, in any case: its first three letters, or the
whole name where that is allowed. -/
def name? (names : List String) (long : Bool) (cs : List Char) : Option (Nat × List Char) :=
  let low := cs.map Char.toLower
  (names.findIdx? fun n => n.toList.take 3 == low.take 3).map fun i =>
    let whole := (names.getD i "").toList
    if long && low.take whole.length == whole then (i, cs.drop whole.length) else (i, cs.drop 3)

def note? (found : DateFields) (place : Place) (n : Int) : Option DateFields :=
  (place.facts? n).bind found.putAll?

def noteTimestamp? (found : DateFields) (p : Timestamp.Parts) : Option DateFields := do
  let found ← note? found .year p.year
  let found ← note? found .month p.month
  let found ← note? found .day p.day
  let found ← note? found .hour p.hour
  let found ← note? found .minute p.minute
  let found ← note? found .second p.second
  let found ← match p.nano with
    | some n => note? found .nano n
    | none => some found
  found.put? .offset p.offset

def nanoDigits? (count : Nat) (found : DateFields) (cs : List Char) :
    Option (DateFields × List Char) := do
  if cs.length < count then none
  else
    let n ← Text.readDigits? (cs.take count)
    some (← note? found .nano (n * 10 ^ (9 - count) : Nat), cs.drop count)

def readItem? (item : Item) (found : DateFields) (cs : List Char) :
    Option (DateFields × List Char) :=
  match item with
  | .literal c =>
    match cs with
    | d :: rest => if c = d then some (found, rest) else none
    | [] => none
  | .space => some (found, Text.trimStart cs)
  | .number place => do
    let (n, rest) ← place.read? cs
    some (← note? found place n, rest)
  | .monthName long => do
    let (i, rest) ← name? monthNames long cs
    some (← found.put? .month (i + 1), rest)
  | .weekdayName long => do
    let (i, rest) ← name? weekdayNames long cs
    some (← found.put? .weekday i, rest)
  | .halfName =>
    match (cs.take 2).map Char.toLower with
    | ['a', 'm'] => (found.put? .half 0).map fun found => (found, cs.drop 2)
    | ['p', 'm'] => (found.put? .half 1).map fun found => (found, cs.drop 2)
    | _ => none
  | .fraction => do
    match ← Timestamp.nanos? cs with
    | (some n, rest) => some (← note? found .nano n, rest)
    | (none, rest) => some (found, rest)
  | .pointedDigits count =>
    match cs with
    | '.' :: ds => nanoDigits? count found ds
    | cs => some (found, cs)
  | .fractionDigits count => nanoDigits? count found cs
  | .zone => do
    let (n, rest) ← Timestamp.offset? false (Text.trimStart cs)
    some (← found.put? .offset n, rest)
  | .laxZone => do
    let (n, rest) ← Timestamp.zuluOrOffset? true (Text.trimStart cs)
    some (← found.put? .offset n, rest)
  | .zoneName => some (found, cs.dropWhile fun c => !Text.isBlank c)
  | .timestamp => do
    let (p, rest) ← Timestamp.parts? cs
    some (← noteTimestamp? found p, rest)
  | .unknown => none

def readItems? : List Item → DateFields → List Char → Option (DateFields × List Char)
  | [], found, cs => some (found, cs)
  | item :: items, found, cs => do
    let (found, cs) ← readItem? item found cs
    readItems? items found cs

/-- The midnight of the day that a text writes by the pattern; white space around it is ignored. -/
def read? (pattern text : List Char) : Option Instant := do
  let (found, rest) ← readItems? (items pattern) [] (Text.trim text)
  if rest = [] then found.date?.map Instant.midnight else none

end BankReconciliation.DatePattern
