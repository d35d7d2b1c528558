import TypedPath.Query.Decode
import TypedPath.Schema.Directory

/-! What commands work on: a document of queries and the definition that it names. -/
namespace TypedPath

/-- A document with the definition that its queries are about. -/
structure Source where
  document : Document
  loaded : Loaded

namespace Files

variable (files : Files)

/-- Reads a document of queries. -/
def readDocument (name : String) : Except LoadFault Document :=
  let refused (message : String) : LoadFault := { code := "E110", message := message }
  match files.read name with
  | .error .notFound =>
    .error { code := "E005", message := "query file not found: " ++ name }
  | .error e =>
    let action := if e = .isDirectory then "read " else "open "
    .error (refused ("failed to read query file: " ++ action ++ name ++ ": " ++ e.message))
  | .ok text => (Document.parse text).mapError fun e => refused e.message

/-- Reads a document of queries and then the schema in a directory. -/
def source (directory name : String) : Except LoadFault Source := do
  let document ← files.readDocument name
  let loaded ← (files.loadSchema directory document.schema).mapError (·.toFault)
  return ⟨document, loaded⟩

end Files

end TypedPath
