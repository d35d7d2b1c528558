import TypedPath.Literal

/-! Queries as they are written down. Nothing is ruled out here: a step or a predicate may have any
of its parts filled in, and `Query.formFault?` says which combinations are queries. -/
namespace TypedPath

mutual

/-- One move from a value to another. Empty text and `none` stand for a part that is not given. -/
structure Step where
  field : String := ""
  index : Option Int := none
  key : String := ""
  filter : Option Predicate := none
  narrowTo : String := ""

/-- A condition: a combination of conditions, or a test of the value at a path. An absent value
stands for a test that is not given. -/
structure Predicate where
  all : List Predicate := []
  any : List Predicate := []
  negated : Option Predicate := none
  path : List Step := []
  equals : Value := .absent
  notEquals : Value := .absent
  greater : Value := .absent
  greaterOrEqual : Value := .absent
  less : Value := .absent
  lessOrEqual : Value := .absent
  pattern : String := ""

end

instance : Inhabited Step := ⟨{}⟩
instance : Inhabited Predicate := ⟨{}⟩

/-- A named query: a walk from the root, or a condition on it. -/
structure Query where
  name : String := ""
  description : String := ""
  select : List Step := []
  filterBy : Option Predicate := none
  deriving Inhabited

/-- Queries against one definition of a schema. -/
structure Document where
  schema : String := ""
  queries : List Query := []
  deriving Inhabited

/-- A test of a single value. -/
inductive Test
  | compare (operator : Operator) (value : Value)
  | fits (pattern : String)

namespace Test

def name : Test → String
  | compare .equals _ => "equals"
  | compare .notEquals _ => "not_equals"
  | compare .greater _ => "gt"
  | compare .greaterOrEqual _ => "gte"
  | compare .less _ => "lt"
  | compare .lessOrEqual _ => "lte"
  | fits _ => "match"

end Test

def Value.isAbsent : Value → Bool
  | absent => true
  | _ => false

namespace Predicate

/-- The tests that a predicate names, in a fixed order. -/
def tests (p : Predicate) : List Test :=
  let given (op : Operator) (v : Value) : List Test :=
    if v.isAbsent then [] else [.compare op v]
  given .equals p.equals ++ given .notEquals p.notEquals ++ given .greater p.greater
    ++ given .greaterOrEqual p.greaterOrEqual ++ given .less p.less
    ++ given .lessOrEqual p.lessOrEqual
    ++ if p.pattern = "" then [] else [.fits p.pattern]

end Predicate

end TypedPath
