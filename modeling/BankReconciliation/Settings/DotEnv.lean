import BankReconciliation.Text.Classes
import BankReconciliation.Text.Blank

/-! Files of variables: lines such as `NAME="value" # comment`, with quotes, escapes, and other
variables in values. Reading stops at the first line that cannot be understood; the variables before
it count. -/

namespace BankReconciliation.DotEnv

/-- Variables by name; the first of a name counts. -/
abbrev Variables := List (String × String)

/-- Where a line stands at its end; a line that is not complete goes on in the next one. -/
inductive LineState
  | complete | space | escaped | weak | weakEscaped | strong | strongEscaped | comment
deriving DecidableEq

def isInnerSpace (c : Char) : Bool := Text.isBlank c && c != '\n' && c != '\r'

def opened (c : Char) : LineState :=
  if c = '\\' then .escaped else if c = '"' then .weak else if c = '\'' then .strong else .complete

def LineState.next (state : LineState) (c : Char) : LineState :=
  match state with
  | .space => if c = '#' then .comment else opened c
  | .escaped => .complete
  | .complete => if isInnerSpace c then .space else opened c
  | .weak => if c = '\\' then .weakEscaped else if c = '"' then .complete else .weak
  | .weakEscaped => .weak
  | .strong => if c = '\\' then .strongEscaped else if c = '\'' then .complete else .strong
  | .strongEscaped => .strong
  | .comment => .comment

def scan : LineState → List Char → List Char × LineState
  | state, [] => ([], state)
  | state, c :: cs =>
    match state.next c with
    | .comment => ([], .comment)
    | next =>
      let (kept, final) := scan next cs
      (c :: kept, final)

def physicalLines : List Char → List (List Char)
  | [] => []
  | c :: cs =>
    if c = '\n' then [c] :: physicalLines cs
    else match physicalLines cs with
      | [] => [[c]]
      | l :: ls => (c :: l) :: ls

def dropLineEnd (cs : List Char) : List Char :=
  if cs.getLast? = some '\n' then
    let cs := cs.dropLast
    if cs.getLast? = some '\r' then cs.dropLast else cs
  else cs

/-- The logical lines of a file. The last item is `none` when the file ends inside quotes. -/
def logicalLines : (started : List Char) → LineState → List (List Char) → List (Option (List Char))
  | _, .complete, [] => []
  | _, _, [] => [none]
  | started, state, line :: lines =>
    if (Text.trimStart (started ++ line)).head? = some '#' then
      some [] :: logicalLines [] .complete lines
    else match scan state line with
      | (_, .complete) => some (dropLineEnd (started ++ line)) :: logicalLines [] .complete lines
      | (kept, .comment) => some (started ++ kept) :: logicalLines [] .complete lines
      | (_, next) => logicalLines (started ++ line) next lines

inductive Substitution
  | none | name | braced
deriving DecidableEq

structure ValueState where
  strong : Bool := false
  weak : Bool := false
  escaped : Bool := false
  /-- Only spaces and a comment may follow. -/
  ended : Bool := false
  substitution : Substitution := .none
  /-- The name of the variable to put in. -/
  name : List Char := []
  output : List Char := []

/-- Puts the value of the named variable into the output; an unknown one is empty. -/
def ValueState.substitute (s : ValueState) (known : Variables) : ValueState :=
  { s with
    output := s.output ++ ((known.lookup (String.ofList s.name)).getD "").toList
    name := [] }

def ValueState.push (s : ValueState) (c : Char) : ValueState := { s with output := s.output ++ [c] }

def ValueState.inName (s : ValueState) (known : Variables) (c : Char) : ValueState :=
  if Text.isAlphanumeric c then { s with name := s.name ++ [c] }
  else if s.substitution = .braced then
    if c = '\x7d' then { s.substitute known with substitution := .none }
    else { s with name := s.name ++ [c] }
  else if c = '\x7b' ∧ s.name = [] then { s with substitution := .braced }
  else
    let s := s.substitute known
    if c = '$' then { s with substitution := .name } else { s with substitution := .none }.push c

/-- Reads one character of a value; none where it may not stand. The flag says that a comment
begins. -/
def ValueState.step? (s : ValueState) (known : Variables) (c : Char) : Option (ValueState × Bool) :=
  if s.ended then
    if c = ' ' ∨ c = '\t' then some (s, false) else if c = '#' then some (s, true) else none
  else if s.escaped then
    if c = '\\' ∨ c = '\'' ∨ c = '"' ∨ c = '$' ∨ c = ' ' then
      some ({ s with escaped := false }.push c, false)
    else if c = 'n' then some ({ s with escaped := false }.push '\n', false)
    else none
  else if s.strong then some (if c = '\'' then { s with strong := false } else s.push c, false)
  else if s.substitution ≠ .none then some (s.inName known c, false)
  else if c = '$' then some ({ s with substitution := .name }, false)
  else if s.weak then
    some (if c = '"' then { s with weak := false }
      else if c = '\\' then { s with escaped := true } else s.push c, false)
  else if c = '\'' then some ({ s with strong := true }, false)
  else if c = '"' then some ({ s with weak := true }, false)
  else if c = '\\' then some ({ s with escaped := true }, false)
  else if c = ' ' ∨ c = '\t' then some ({ s with ended := true }, false)
  else some (s.push c, false)

def valueFrom? (known : Variables) : ValueState → List Char → Option (List Char)
  | s, [] =>
    if s.substitution = .braced || s.strong || s.weak then none
    else some (s.substitute known).output
  | s, c :: cs =>
    match s.step? known c with
    | none => none
    | some (s, true) => valueFrom? known s []
    | some (s, false) => valueFrom? known s cs

def isKeyStart (c : Char) : Bool := c.isAlpha || c == '_'

def isKeyChar (c : Char) : Bool := c.isAlphanum || c == '_' || c == '.'

def key? (cs : List Char) : Option (List Char × List Char) :=
  match cs with
  | c :: _ => if isKeyStart c then some (cs.takeWhile isKeyChar, cs.dropWhile isKeyChar) else none
  | [] => none

def equals? (cs : List Char) : Option (List Char) :=
  match Text.trimStart cs with
  | '=' :: rest => some rest
  | _ => none

/-- The name that a line sets and the text of its value; `export` may stand before the name. -/
def assignment? (cs : List Char) : Option (List Char × List Char) := do
  let (key, rest) ← key? cs
  match equals? rest with
  | some value => some (key, value)
  | none =>
    if key = "export".toList then
      let (key, rest) ← key? (Text.trimStart rest)
      (equals? rest).map fun value => (key, value)
    else none

/-- What a logical line says: nothing, or a variable with its value; none where it is malformed. -/
def line? (known : Variables) (cs : List Char) : Option (Option (String × String)) :=
  let cs := Text.trim cs
  if cs.isEmpty || cs.head? == some '#' then some none
  else do
    let (key, rest) ← assignment? cs
    let rest := Text.trimStart rest
    if rest.isEmpty || rest.head? == some '#' then some (some (String.ofList key, ""))
    else
      let value ← valueFrom? known {} rest
      some (some (String.ofList key, String.ofList value))

/-- Adds the variables of some lines to an environment, whose own variables are kept. `stored` holds
the values that the file gave, the last first. -/
def load (environment stored : Variables) : List (Option (List Char)) → Variables
  | [] => environment
  | none :: _ => environment
  | some cs :: rest =>
    match line? (environment ++ stored) cs with
    | none => environment
    | some none => load environment stored rest
    | some (some (name, value)) =>
      let environment := if (environment.lookup name).isSome then environment
        else environment ++ [(name, value)]
      load environment ((name, value) :: stored) rest

/-- The environment with the variables of a file; a mark of the byte order is skipped. -/
def extend (environment : Variables) (content : String) : Variables :=
  let cs := match content.toList with
    | '\uFEFF' :: cs => cs
    | cs => cs
  load environment [] (logicalLines [] .complete (physicalLines cs))

end BankReconciliation.DotEnv
