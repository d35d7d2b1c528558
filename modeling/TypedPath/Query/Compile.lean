import TypedPath.Node.Compile
import TypedPath.Node.Condition
import TypedPath.Query.Basic

/-! Compiles written queries to paths by walking the accessors of a schema. -/
namespace TypedPath

namespace Shape

/-- The shape that a step can narrow a dynamic value to. -/
def ofName? : String → Option Shape
  | "string" => some .string
  | "number" => some .number
  | "integer" => some .integer
  | "bool" => some .bool
  | "binary" => some .binary
  | "timestamp" => some .timestamp
  | "any" => some .any
  | "unknown" => some .unknown
  | "nothing" => some .nothing
  | _ => none

end Shape

namespace Node

/-- A test of the value behind an accessor. -/
def test (n : Node) : Test → Except Error Node
  | .compare op v =>
    if op.isOrdering then
      match n.as (.accessor .number) with
      | .error e => .error e
      | .ok n => n.compare op (.value v)
    else n.compare op (.value v)
  | .fits pattern =>
    match n.as (.accessor .string) with
    | .error e => .error e
    | .ok n => .ok (n.matching pattern)

/-- The member that a step names. -/
def stepField (n : Node) (name : String) : Except Error Node :=
  match inContext (.field name) (n.as (.accessor .struct)) with
  | .error e => .error e
  | .ok n => n.member name

def stepIndex (n : Node) (index : Int) : Except Error Node :=
  match inContext (.index index) (n.as (.accessor .array)) with
  | .error e => .error e
  | .ok n => n.element index

def stepKey (n : Node) (key : String) : Except Error Node :=
  match inContext (.key key) (n.as (.accessor .map)) with
  | .error e => .error e
  | .ok n => n.entry key

def stepNarrow (n : Node) (name : String) : Except Error Node :=
  match inContext (.narrowing name) (n.as (.accessor .dynamic)) with
  | .error e => .error e
  | .ok n =>
    match Shape.ofName? name with
    | some s => n.narrow s
    | none => .error (.cause (.unknownShape name))

/-- The only test of a predicate, on the value at the end of its path. -/
def testOnly (target : Except Error Node) : List Test → Except Error Node
  | [t] =>
    match target with
    | .error e => .error e
    | .ok n => inContext (.operator t.name) (n.test t)
  | _ => .error (.cause .operatorCount)

mutual

/-- Follows steps, the first of which stands at position `i`. -/
def walkFrom (i : Nat) (n : Node) : List Step → Except Error Node
  | [] => .ok n
  | s :: rest =>
    match inContext (.step i) (n.step s) with
    | .error e => .error e
    | .ok next => walkFrom (i + 1) next rest

/-- Makes one move. Of several parts the first in the order of their declaration counts. -/
def step (n : Node) : Step → Except Error Node
  | ⟨name, position, key, predicate, target⟩ =>
    if name ≠ "" then n.stepField name
    else match position with
      | some i => n.stepIndex i
      | none =>
        if key ≠ "" then n.stepKey key
        else match filterCondition predicate with
          | some p => n.narrowBy (some p)
          | none =>
            if target ≠ "" then n.stepNarrow target
            else .error (.cause .emptyStep)

def filterCondition : Option Predicate → Option Condition
  | none => none
  | some p => some fun item => item.satisfying p

/-- The condition that a predicate states of a value. -/
def satisfying (n : Node) : Predicate → Except Error Node
  | ⟨all, any, negated, path, eq, ne, gt, ge, lt, le, pattern⟩ =>
    if !all.isEmpty then (inContext .and (n.satisfyingEach all)).map allOf
    else if !any.isEmpty then (inContext .or (n.satisfyingEach any)).map anyOf
    else match n.satisfyingNegated negated with
      | some r => (inContext .not r).map noneOf
      | none =>
        testOnly (walkFrom 0 n path)
          (Predicate.tests ⟨[], [], none, [], eq, ne, gt, ge, lt, le, pattern⟩)

def satisfyingEach (n : Node) : List Predicate → Except Error (List Node)
  | [] => .ok []
  | p :: rest =>
    match n.satisfying p with
    | .error e => .error e
    | .ok c => (n.satisfyingEach rest).map (c :: ·)

def satisfyingNegated (n : Node) : Option Predicate → Option (Except Error Node)
  | none => none
  | some p => some (n.satisfying p)

end

def walk (n : Node) (steps : List Step) : Except Error Node := walkFrom 0 n steps

end Node

/-- A compiled query. -/
structure Compiled where
  name : String
  path : String
  id : String
  deriving Repr, DecidableEq

namespace Query

/-- The expression of a query on the root of a schema. -/
def build (q : Query) (root : Node) : Except Error Node :=
  match q.filterBy with
  | some p => root.satisfying p
  | none => root.walk q.select

def compile (q : Query) (root : Node) : Except Error Compiled :=
  match q.build root with
  | .error e => .error (.query q.name e)
  | .ok n =>
    match n.compile with
    | .error e => .error (.query q.name e)
    | .ok path => .ok ⟨q.name, path, Node.queryId path⟩

end Query

namespace Document

/-- Compiles every query, up to the first that fails. -/
def compile (d : Document) (root : Node) : Except Error (List Compiled) :=
  d.queries.mapM (·.compile root)

/-- The queries that are compiled before the first that fails. -/
def compiledBeforeError (d : Document) (root : Node) : List Compiled :=
  ((d.queries.map (·.compile root)).takeWhile (·.toOption.isSome)).filterMap (·.toOption)

end Document

end TypedPath
