import BankReconciliation.Text.Encoding

/-! Statement files: where they may lie, why they cannot be read, and a tree of files held in
memory. -/

namespace BankReconciliation

open Text (Bytes)

inductive FileError
  | notFound | isDirectory | notDirectory | tooLong | badName
  | other (text : String)
deriving DecidableEq

namespace FileError

def message : FileError → String
  | .notFound => "No such file or directory (os error 2)"
  | .isDirectory => "Is a directory (os error 21)"
  | .notDirectory => "Not a directory (os error 20)"
  | .tooLong => "File name too long (os error 36)"
  | .badName => "file name contained an unexpected NUL byte"
  | .other text => text

end FileError

/-- Locations that are addresses on the network; their files are never removed. -/
def isRemote (location : String) : Bool :=
  location.startsWith "http://" || location.startsWith "https://"

inductive FileEntry
  | file (content : Bytes)
  | directory
deriving DecidableEq

/-- The names that lead to an entry from the working directory, with `..` for each directory above
it, or from the root, whose name is `/`. -/
abbrev Path := List String

namespace Path

def up : String := ".."

def root : String := "/"

/-- The directory that a path lies in. The root lies in itself. -/
def parent (path : Path) : Path :=
  if path = [root] then path
  else match path.getLast? with
    | none => [up]
    | some last => if last = up then path ++ [up] else path.dropLast

/-- Whether a path leads to the working directory, to one above it or to the root; these
directories are always there. -/
def isGiven (path : Path) : Bool := path.all fun name => name == up || name == root

def longestName : Nat := 255

/-- The path one step on. An empty step and a dot stay where they are. -/
def step (path : Path) (name : String) : Except FileError Path :=
  if name = "" ∨ name = "." then .ok path
  else if name = up then .ok path.parent
  else if longestName < name.utf8ByteSize then .error .tooLong
  else .ok (path ++ [name])

/-- The steps that a location asks for, and the directory that they start from. -/
def stepsOf (location : String) : Path × List String :=
  match (location.toList.splitOnP (· == '/')).map String.ofList with
  | "" :: rest => ([root], rest)
  | names => ([], names)

end Path

abbrev Files := List (Path × FileEntry)

namespace Files

def at? (files : Files) (path : Path) : Option FileEntry :=
  if path.isGiven then some .directory else files.lookup path

/-- The path at the end of some steps. Each of them starts from a directory. -/
def walk (files : Files) : Path → List String → Except FileError Path
  | path, [] => .ok path
  | path, name :: names =>
    match files.at? path with
    | none => .error .notFound
    | some (.file _) => .error .notDirectory
    | some .directory => do walk files (← path.step name) names

def longestLocation : Nat := 4095

def refusal? (location : String) : Option FileError :=
  if location = "" then some .notFound
  else if location.contains '\x00' then some .badName
  else if longestLocation < location.utf8ByteSize then some .tooLong
  else none

def resolve (files : Files) (location : String) : Except FileError Path :=
  match refusal? location with
  | some e => .error e
  | none => files.walk (Path.stepsOf location).1 (Path.stepsOf location).2

def find (files : Files) (location : String) : Except FileError FileEntry := do
  match files.at? (← files.resolve location) with
  | some entry => .ok entry
  | none => .error .notFound

def exists? (files : Files) (location : String) : Bool :=
  match files.find location with
  | .ok _ => true
  | .error _ => false

/-- The path at the end of some steps, and the files with a directory made after each step that
leads to nothing. -/
def makeWay (files : Files) : Path → List String → Except FileError (Files × Path)
  | path, [] => .ok (files, path)
  | path, name :: names => do
    let path ← path.step name
    match files.at? path with
    | none => makeWay (files ++ [(path, .directory)]) path names
    | some .directory => makeWay files path names
    | some (.file _) => .error .notDirectory

/-- Puts an entry at a path. A file may be replaced, and only by a file. -/
def putAt (files : Files) (path : Path) (entry : FileEntry) : Except FileError Files :=
  match files.at? path, entry with
  | none, _ => .ok (files ++ [(path, entry)])
  | some .directory, .directory => .ok files
  | some .directory, .file _ => .error .isDirectory
  | some (.file _), .directory => .error .notDirectory
  | some (.file _), .file _ => .ok ((files.filter fun (p, _) => p != path) ++ [(path, entry)])

/-- Puts an entry at a location and makes the directories that lead to it. Files stay as they are
where that is not possible. -/
def put (files : Files) (location : String) (entry : FileEntry) : Files :=
  let attempt : Except FileError Files := do
    if let some e := refusal? location then throw e
    let (start, names) := Path.stepsOf location
    let (files, path) ← files.makeWay start names.dropLast
    files.putAt (← path.step (names.getLast?.getD "")) entry
  attempt.toOption.getD files

def remove (files : Files) (location : String) : Except FileError Files := do
  let path ← files.resolve location
  match files.at? path with
  | none => .error .notFound
  | some .directory => .error .isDirectory
  | some (.file _) => .ok (files.filter fun (p, _) => p != path)

end Files

end BankReconciliation
