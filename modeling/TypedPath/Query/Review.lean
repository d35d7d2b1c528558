import TypedPath.Query.Compile

/-! Checks all queries of a document and keeps apart the ones that its schema takes and refuses. -/
namespace TypedPath

/-- A query that the schema refuses. -/
structure Rejection where
  query : String
  code : String
  message : String
  deriving Repr, DecidableEq

/-- The names of the queries that the schema takes, and the ones that it refuses. -/
structure Review where
  valid : Bool := true
  checked : Nat
  passed : List String := []
  rejected : List Rejection := []
  deriving Repr, DecidableEq

/-- Adds what comes of one more query. -/
def Review.add (root : Node) (r : Review) (q : Query) : Review :=
  match q.compile root with
  | .ok _ => { r with passed := r.passed ++ [q.name] }
  | .error e =>
    { r with valid := false, rejected := r.rejected ++ [⟨q.name, e.code, e.ofQuery.message⟩] }

/-- Reviews all queries, also those behind one that fails. -/
def Document.review (d : Document) (root : Node) : Review :=
  d.queries.foldl (.add root) { checked := d.queries.length }

end TypedPath
