import TypedPath.Files.Walk
import TypedPath.Node.Accessor
import TypedPath.Schema.Package
import TypedPath.Shape.OfSchema

/-! Loads a record definition from a directory with a schema. -/
namespace TypedPath

/-- A record definition, ready for queries. -/
structure Loaded where
  definition : String
  record : Shape
  root : Node
  fileCount : Nat

/-- Why a definition cannot be loaded. The schema may be no schema at all in three ways: its files
are not well formed or belong to no single package, its declarations contradict themselves, or the
definition is no valid schema by itself. -/
inductive LoadFailure
  | fault (fault : LoadFault)
  | unreadable
  | contradictory
  | invalid
  deriving Repr, DecidableEq

def LoadFailure.toFault : LoadFailure → LoadFault
  | fault f => f
  | unreadable => { code := "E004", message := "loading CUE files: invalid package" }
  | contradictory => { code := "E006", message := "building CUE value: invalid schema" }
  | invalid => { code := "E102", message := "cue: invalid value" }

namespace Files

variable (files : Files)

/-- The schema files in a directory and below. -/
def schemaFiles (directory : String) : Except FileError (List String) :=
  files.walk (extension · = ".cue") directory

/-- Whether a file is part of the schema of its directory. Files for tests and tools are not. -/
def isSchemaSource (name : String) : Bool :=
  let cs := name.toList
  extension name = ".cue" && cs.head? != some '_' && cs.head? != some '.'
    && !"_test.cue".toList.isSuffixOf cs && !"_tool.cue".toList.isSuffixOf cs

/-- The names and texts of the files of a schema. -/
def schemaSources (place : List String) : List (String × String) :=
  (files.namesIn place).filterMap fun n =>
    match files.kindAt? (place ++ [n]) with
    | some (.file text) =>
      if isSchemaSource n then some ("/" ++ "/".intercalate (place ++ [n]), text) else none
    | _ => none

end Files

namespace Schema

/-- The files of the only package among some. -/
def onePackage? (fs : List File) : Option (List File) :=
  let named := fs.filter fun f => f.package.isSome && f.package != some "_"
  match (named.map (·.package)).eraseDups with
  | [_] => some named
  | _ => none

/-- The schema of a package, from its files with their names. -/
def ofFiles (sources : List (String × String)) : Except LoadFailure Schema := do
  let some fs := sources.mapM fun s => File.parse? s.1 s.2 | .error .unreadable
  let some fs := onePackage? fs | .error .unreadable
  let size := (fs.map (·.size)).foldl (· + ·) 0
  match ofDecls? (fs.head?.bind (·.position)) size (fs.flatMap (·.decls)) with
  | some s => .ok s
  | none => .error .contradictory

/-- The path of a definition. The mark of definitions may be left out of a single name. -/
def definitionPath (name : String) : String :=
  if name.toList.head? = some '#' || name.toList.contains '.' then name else "#" ++ name

/-- The record at a path, from which queries start. -/
def recordAt (s : Schema) (directory definition : String) (fileCount : Nat) :
    Except LoadFailure Loaded := do
  let some path := path? definition | .error .invalid
  let some value := s.lookup? path
    | .error (.fault { code := "E101", message :=
        "definition " ++ definition ++ " not found in " ++ directory })
  let position := value.position?
  let shape ← match Shape.ofSchema s.view value with
    | .ok shape => .ok shape
    | .error .invalid => .error .invalid
    | .error (.unsupported f) =>
      .error (.fault ⟨"E102", if f.path = "" then f.message else f.path ++ ": " ++ f.message,
        f.position⟩)
  match shape with
  | .record .. =>
    match Node.ofRecord shape with
    | .ok root => .ok ⟨definition, shape, root, fileCount⟩
    | .error e => .error (.fault ⟨e.code, e.message, position⟩)
  | _ =>
    .error (.fault ⟨"E103",
      "definition " ++ definition ++ " is a " ++ shape.text ++ ", not a record", position⟩)

end Schema

namespace Files

/-- Loads a definition from the schema in a directory. -/
def loadSchema (files : Files) (directory definition : String) : Except LoadFailure Loaded := do
  let notFound (message : String) : LoadFailure := .fault { code := "E005", message := message }
  match files.find directory with
  | .error .notFound => .error (notFound ("schema directory not found: " ++ directory))
  | .error e => .error (notFound
      ("error accessing schema directory: stat " ++ directory ++ ": " ++ e.message))
  | .ok (.file _) => .error (notFound ("not a directory: " ++ directory))
  | .ok .directory =>
    match files.schemaFiles directory, files.locate directory with
    | .ok [], _ =>
      .error (.fault { code := "E003", message := "no CUE files found in " ++ directory })
    | .ok found, .ok place =>
      let schema ← Schema.ofFiles (files.schemaSources place)
      schema.recordAt directory (Schema.definitionPath definition) found.length
    | .error e, _ | _, .error e =>
      .error (.fault { code := "E002", message := "error scanning directory: " ++ e.message })

end Files

end TypedPath
