import TypedPath.Error

/-! Checks that an expression is well formed, and lists everything that is wrong with it. -/
namespace TypedPath.Node

/-- The faults of a comparison, given the shapes of its sides. -/
def comparisonProblems (op : String) (left right : Shape) : List Problem :=
  if left.family = .other then [.notComparable left]
  else if left.family ≠ right.family then [.familiesDiffer left.family op right.family]
  else if (Operator.ofSymbol? op).any (·.isOrdering) ∧ left.family ≠ .numeric then
    [.orderingOf op left.family]
  else []

/-- What is wrong with a filter of values of a shape. -/
def filterProblems : Shape → List Problem
  | .absent => [.filterOfShapeless]
  | .array _ | .set _ | .map _ => []
  | s => [.filterOf s]

/-- The problems that the shape of `n` gives rise to. A hole is reported elsewhere. -/
def problemsOfShape (n : Node) (problems : Shape → List Problem) : Option (List Problem) :=
  if n.isHole then some [] else n.shape?.map problems

def booleanProblems (n : Node) : Option (List Problem) :=
  n.problemsOfShape fun s => if s.family = .bool then [] else [.notBoolean s]

/-- The problems of a comparison, once both its sides are there. -/
def sidesProblems (op : String) (left right : Node) : Option (List Problem) :=
  if left.isHole || right.isHole then some []
  else do return comparisonProblems op (← left.shape?) (← right.shape?)

mutual

/-- Everything that is wrong with an expression. There is no answer if the shape of a node that is
needed for it cannot be told. -/
def violations : Node → Option (List Violation)
  | hole _ => some [.missing]
  | identifier _ value => some (if value = "" then [.inNode .identifier .emptyIdentifier] else [])
  | field _ parent name => do
    let below ← parent.violations
    return (if name = "" then [.inNode .fieldAccess .emptyFieldName] else []) ++ below
  | arrayElement _ parent index => do
    let below ← parent.violations
    return (if index < 0 then [.inNode .arrayElement (.negativeIndex index)] else []) ++ below
  | mapElement _ parent key => do
    let below ← parent.violations
    return (if key = "" then [.inNode .mapElement .emptyMapKey] else []) ++ below
  | comparison op left right => do
    let inLeft ← left.violations
    let inRight ← right.violations
    let own ← sidesProblems op left right
    let unknown := if (Operator.ofSymbol? op).isSome then [] else [Problem.unknownOperator op]
    return unknown.map (.inNode .comparison) ++ inLeft ++ inRight ++ own.map (.inNode .comparison)
  | conjunction [] => some [.inNode .and .noOperands]
  | disjunction [] => some [.inNode .or .noOperands]
  | conjunction operands => operandViolations .and operands
  | disjunction operands => operandViolations .or operands
  | negation operand => do
    let below ← operand.violations
    return below ++ (← operand.booleanProblems).map (.inNode .not)
  | stringMatch operand pattern => do
    let below ← operand.violations
    let own ← operand.problemsOfShape fun s =>
      if s.family = .string then [] else [.matchOf s.family]
    return (if pattern = "" then [.inNode .stringMatch .emptyPattern] else []) ++ below
      ++ own.map (.inNode .stringMatch)
  | filter parent condition => do
    let inParent ← parent.violations
    let own ← parent.problemsOfShape filterProblems
    let inCondition ← condition.violations
    return inParent ++ own.map (.inNode .filter) ++ inCondition
      ++ (← condition.booleanProblems).map (.inNode .filter)
  | item _ => some []
  | accessor t _ expression =>
    if expression.isHole then some [.inNode (NodeType.accessor t).kind .noExpression]
    else expression.violations

def operandViolations (kind : NodeKind) : List Node → Option (List Violation)
  | [] => some []
  | n :: rest => do
    let below ← n.violations
    let own ← n.booleanProblems
    return below ++ own.map (.inNode kind) ++ (← operandViolations kind rest)

end

/-- Succeeds on a well-formed expression and else reports everything that is wrong with it. -/
def validate (n : Node) : Except Error Unit :=
  match n.violations with
  | none => .error .fault
  | some [] => .ok ()
  | some vs => .error (.all (vs.map fun v => .cause (.violation v)))

end TypedPath.Node
