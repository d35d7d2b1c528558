import TypedPath.Query.Basic

/-! Which written queries are well formed, and what is reported of those that are not. -/
namespace TypedPath

/-- A fault in the form of a query and the contexts around it, the outermost first. -/
abbrev FormFault := List Context × Malformation

def FormFault.within (c : Context) (fault : Option FormFault) : Option FormFault :=
  fault.map fun (trail, reason) => (c :: trail, reason)

/-- How many parts of a step are given. -/
def Step.partCount (s : Step) : Nat :=
  (if s.field = "" then 0 else 1) + (if s.index.isSome then 1 else 0)
    + (if s.key = "" then 0 else 1) + (if s.filter.isSome then 1 else 0)
    + (if s.narrowTo = "" then 0 else 1)

/-- How many forms of predicate are given: the three combinations, and tests as a fourth. -/
def Predicate.formCount (p : Predicate) : Nat :=
  (if p.all.isEmpty then 0 else 1) + (if p.any.isEmpty then 0 else 1)
    + (if p.negated.isSome then 1 else 0) + (if p.tests.isEmpty then 0 else 1)

/-- The fault of a predicate, its parts left aside. -/
def Predicate.ownFault? (p : Predicate) : Option FormFault :=
  if p.tests.isEmpty && !p.path.isEmpty then some ([], .pathWithoutOperator)
  else if p.formCount ≠ 1 then some ([], .predicateForm)
  else if 1 < p.tests.length then some ([], .severalOperators)
  else none

mutual

/-- The first fault in the form of a predicate. -/
def Predicate.formFault? : Predicate → Option FormFault
  | ⟨all, any, negated, path, eq, ne, gt, ge, lt, le, pattern⟩ =>
    (Predicate.ownFault? ⟨all, any, negated, path, eq, ne, gt, ge, lt, le, pattern⟩).or
      ((predicatesFault? .and all).or
        ((predicatesFault? .or any).or
          ((negatedFault? negated).or (stepsFault? 0 path))))

def predicatesFault? (c : Context) : List Predicate → Option FormFault
  | [] => none
  | p :: rest => (FormFault.within c p.formFault?).or (predicatesFault? c rest)

def negatedFault? : Option Predicate → Option FormFault
  | none => none
  | some p => FormFault.within .not p.formFault?

/-- The first fault in the form of the steps from position `i` on. -/
def stepsFault? (i : Nat) : List Step → Option FormFault
  | [] => none
  | s :: rest => (FormFault.within (.step i) s.formFault?).or (stepsFault? (i + 1) rest)

def Step.formFault? : Step → Option FormFault
  | ⟨field, index, key, filter, narrowTo⟩ =>
    if Step.partCount ⟨field, index, key, filter, narrowTo⟩ ≠ 1 then some ([], .stepForm)
    else filterFault? filter

def filterFault? : Option Predicate → Option FormFault
  | none => none
  | some p => p.formFault?

end

namespace Query

/-- The first fault in the form of a query. -/
def formFault? (q : Query) : Option FormFault :=
  match q.select, q.filterBy with
  | _ :: _, some _ => some ([], .selectAndWhere)
  | [], none => some ([], .neitherSelectNorWhere)
  | _, some p => p.formFault?
  | steps, none => stepsFault? 0 steps

end Query

namespace Document

/-- The first error in the queries from position `i` on, where `seen` are the names before. -/
def queriesError? (i : Nat) (seen : List String) : List Query → Option Error
  | [] => none
  | q :: rest =>
    if q.name = "" then some (.cause (.unnamedQuery i))
    else if q.name ∈ seen then some (.cause (.duplicateQuery q.name))
    else match q.formFault? with
      | some (trail, reason) => some (.query q.name (.cause (.malformed trail reason)))
      | none => queriesError? (i + 1) (q.name :: seen) rest

/-- The first error in a document. -/
def formError? (d : Document) : Option Error :=
  if d.schema = "" then some (.cause .noSchema)
  else if d.queries.isEmpty then some (.cause .noQueries)
  else queriesError? 0 [] d.queries

end Document

end TypedPath
