import TypedPath.Command.Source
import TypedPath.Node.Listing
import TypedPath.Query.Review
import TypedPath.Report.Columns
import TypedPath.Report.Formatter

/-! What commands answer: the text or the JSON that they write, and the error that they end with. -/
namespace TypedPath

namespace PathEntry

def data (e : PathEntry) : Data :=
  .object ([("path", .text e.path), ("shape", .text e.shape.text)]
    ++ (if e.optional then [("optional", .bool true)] else [])
    ++ if e.doc = "" then [] else [("doc", .text e.doc)])

/-- An entry of a table, with a tab between the path and its shape. -/
def row (e : PathEntry) : String :=
  "  " ++ e.path ++ "\t" ++ e.shape.text ++ (if e.optional then " (optional)" else "") ++ "\n"

end PathEntry

def Compiled.data (c : Compiled) : Data :=
  .object [("name", .text c.name), ("path", .text c.path), ("id", .text c.id)]

/-- The compiled queries of a document. -/
structure Compilation where
  definition : String
  queries : List Compiled
  deriving Repr, DecidableEq

def Compilation.data (c : Compilation) : Data :=
  .object [("definition", .text c.definition), ("queries", .list (c.queries.map (·.data)))]

def Rejection.data (r : Rejection) : Data :=
  .object [("query", .text r.query), ("code", .text r.code), ("message", .text r.message)]

def Review.data (r : Review) : Data :=
  .object ([("valid", .bool r.valid), ("checked", .number ⟨r.checked, 0⟩)]
    ++ if r.rejected.isEmpty then [] else [("errors", .list (r.rejected.map (·.data)))])

/-- What a command writes and the error that it ends with, if any. `reminder` says how the program
is used after a misuse. -/
structure Answer where
  written : Written := {}
  reminder : List String := []
  error : Option Error := none

namespace Answer

/-- Writes something first. -/
def after (w : Written) (a : Answer) : Answer := { a with written := w ++ a.written }

/-- The code of a command that could not do its work. -/
def unable : Int := 2

/-- The code of a command that found something wrong. -/
def refused : Int := 1

variable (f : Formatter)

/-- What was needed is not there or not usable. A place in a file is shown if it is known. -/
def ofError (e : Error) : Answer :=
  let (message, details) : String × Data := match e with
    | .load fault => (fault.message, (fault.position.map fun p => Data.text p.text).getD .absent)
    | e => (e.message, .absent)
  { written := f.error e.code message details
    error := some (.exit unable (e.code ++ ": " ++ message) none) }

/-- The paths of a definition. -/
def ofPaths (definition : String) (entries : List PathEntry) : Answer :=
  { written :=
      if f.isJson then
        f.success (.object [("definition", .text definition),
          ("paths", .list (entries.map (·.data)))])
      else
        f.check (definition ++ ": " ++ toString entries.length ++ " path(s)") ++ .lines [""]
          ++ { out := Columns.render (String.join (entries.map (·.row))) } }

/-- The compiled queries, which may also be in a file. -/
def ofCompilation (c : Compilation) (file : String) : Answer :=
  let noun := if c.queries.length = 1 then "query" else "queries"
  { written :=
      if f.isJson then f.success c.data
      else
        f.check ("Compiled " ++ toString c.queries.length ++ " " ++ noun ++ " against "
            ++ c.definition)
          ++ .lines ("" :: c.queries.map (fun q => "  " ++ q.name ++ ": " ++ q.path)
            ++ if file = "" then [] else ["", "Wrote compiled queries to " ++ file]) }

/-- The query that stopped a compilation. -/
def ofCompilationError (e : Error) : Answer :=
  { written :=
      if f.isJson then f.error e.code e.message .absent
      else f.cross "Compilation failed" ++ .lines ["", "  " ++ e.code ++ ": " ++ e.message]
    error := some (.exit unable e.code (some e)) }

/-- A file that could not be written. -/
def ofWriteError (file : String) (e : FileError) : Answer :=
  let message := "writing file: open " ++ file ++ ": " ++ e.message
  { written := f.error "E007" ("writing output file: " ++ message) .absent
    error := some (.exit unable "E007" (some (.plain message))) }

/-- The review of a document whose queries are all taken. -/
def ofValid (r : Review) : Answer :=
  { written :=
      if f.isJson then f.success r.data
      else
        .all (r.passed.map f.check) ++ .lines [""]
          ++ f.check ("All " ++ toString r.checked ++ " queries valid") }

/-- The review of a document with refused queries, of which `first` comes first. -/
def ofInvalid (r : Review) (first : Rejection) : Answer :=
  { written :=
      if f.isJson then
        .lines [(Data.object [("status", .text "error"), ("data", r.data),
          ("error", Formatter.errorData first.code first.message .absent)]).indented]
      else
        .all (r.passed.map f.check)
          ++ .all (r.rejected.map fun x =>
            f.cross x.query ++ .lines ["  " ++ x.code ++ ": " ++ x.message])
          ++ .lines [""]
          ++ f.cross ("Validation failed: " ++ toString r.rejected.length ++ " of "
            ++ toString r.checked ++ " queries rejected")
    error := some (.exit refused
      ("validation failed with " ++ toString r.rejected.length ++ " error(s)") none) }

def ofReview (r : Review) : Answer :=
  if r.valid then ofValid f r
  else match r.rejected with
    | [] => { error := some .fault }
    | first :: _ => ofInvalid f r first

end Answer

end TypedPath
