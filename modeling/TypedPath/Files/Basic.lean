/-! Files by name: what a name leads to, and what is read and written there. -/
namespace TypedPath

/-- What stands at a place. -/
inductive FileKind
  | file (text : String)
  | directory
  deriving Repr, DecidableEq

inductive FileError
  | notFound
  | notDirectory
  | isDirectory
  deriving Repr, DecidableEq

def FileError.message : FileError → String
  | notFound => "no such file or directory"
  | notDirectory => "not a directory"
  | isDirectory => "is a directory"

/-- Files and directories at their places, each place the names on the way to it from the top.
`here` is the place that names start from unless they start with a slash. -/
structure Files where
  here : List String
  entries : List (List String × FileKind)
  deriving Repr

namespace Files

/-- The parts of a name between its slashes. -/
def parts (name : String) : List String := (name.toList.splitOn '/').map String.ofList

def isAbsolute (name : String) : Bool := name.toList.head? = some '/'

variable (files : Files)

/-- What stands at a place. Whatever lies on the way to something else is a directory. -/
def kindAt? (place : List String) : Option FileKind :=
  match files.entries.lookup place with
  | some k => some k
  | none =>
    if place.isPrefixOf files.here || files.entries.any (fun e => place.isPrefixOf e.1) then
      some .directory
    else none

/-- The place that a part of a name leads to from a directory. -/
def step (place : List String) (part : String) : List String :=
  if part = "" ∨ part = "." then place
  else if part = ".." then place.dropLast
  else place ++ [part]

/-- The place that a name leads to. Everything but its end has to be a directory. -/
def follow (place : List String) : List String → Except FileError (List String)
  | [] => .ok place
  | part :: rest =>
    match files.kindAt? place with
    | none => .error .notFound
    | some (.file _) => .error .notDirectory
    | some .directory => follow (step place part) rest

def start (name : String) : List String := if isAbsolute name then [] else files.here

def locate (name : String) : Except FileError (List String) :=
  if name = "" then .error .notFound else files.follow (files.start name) (parts name)

/-- What a name stands for. -/
def find (name : String) : Except FileError FileKind := do
  match files.kindAt? (← files.locate name) with
  | some k => .ok k
  | none => .error .notFound

/-- The text of a file. -/
def read (name : String) : Except FileError String := do
  match ← files.find name with
  | .file text => .ok text
  | .directory => .error .isDirectory

/-- The files after a text is written under a name. The directory has to be there. -/
def write (name text : String) : Except FileError Files := do
  let place ← files.locate name
  match files.kindAt? place with
  | some .directory => .error .isDirectory
  | k =>
    if k.isNone && (parts name).getLast? = some "" then .error .isDirectory
    else if files.kindAt? place.dropLast ≠ some .directory then .error .notFound
    else .ok { files with
      entries := (place, .file text) :: files.entries.filter (·.1 ≠ place) }

/-- The names in a directory, in ascending order. -/
def namesIn (place : List String) : List String :=
  let names := files.entries.filterMap fun e =>
    if place.isPrefixOf e.1 then (e.1.drop place.length).head? else none
  (names.eraseDups.mergeSort fun a b => a ≤ b)

end Files

end TypedPath
