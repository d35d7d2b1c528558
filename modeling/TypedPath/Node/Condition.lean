import TypedPath.Literal
import TypedPath.Node.Accessor

/-! Conditions: comparisons, matches and their combinations. -/
namespace TypedPath

/-- The right side of a comparison. -/
inductive Operand
  | value (value : Value)
  | node (node : Node)
  deriving Inhabited

namespace Accessor

/-- The family of the values behind an accessor. -/
def family : Accessor → Family
  | string => .string
  | number => .numeric
  | bool => .bool
  | _ => .other

/-- Whether values behind an accessor can be compared by an operator. -/
def offers : Accessor → Operator → Bool
  | number, _ => true
  | string, op | bool, op => !op.isOrdering
  | _, _ => false

end Accessor

namespace Node

/-- A node of the family `want`, from a literal or another node. -/
def operand (want : Family) (x : Operand) : Except Error Node :=
  let node : Except Error Node := match x with
    | .node (hole none) => .error (.cause .noLiteral)
    | .node (hole (some t)) => .error (.cause (.missingOperand t))
    | .node n => .ok n
    | .value v => ofValue v
  match node with
  | .error e => .error e
  | .ok n =>
    match n.shape? with
    | none => .error .fault
    | some s =>
      if s.family = want then .ok n else .error (.cause (.operandFamily want s.family s))

def compare (n : Node) (op : Operator) (x : Operand) : Except Error Node :=
  match n with
  | accessor t _ _ =>
    if t.offers op then
      match inContext (.comparison t.family op) (operand t.family x) with
      | .error e => .error e
      | .ok right => .ok (truth (comparison op.symbol n right))
    else .error (.cause (.operatorUnsupported n.type?))
  | _ => .error (.cause (.operatorUnsupported n.type?))

/-- A match of a text against a pattern, which is kept as given. -/
def matching (n : Node) (pattern : String) : Node := truth (stringMatch n pattern)

/-- A boolean operand. Anything else leaves a hole. -/
def boolOrHole : Node → Node
  | accessor .bool s e => accessor .bool s e
  | _ => hole none

def allOf (operands : List Node) : Node := truth (conjunction (operands.map boolOrHole))

def anyOf (operands : List Node) : Node := truth (disjunction (operands.map boolOrHole))

def noneOf (operand : Node) : Node := truth (negation operand.boolOrHole)

/-- The negation of a boolean value, which keeps the shape of that value. -/
def negated (n : Node) : Node :=
  match n with
  | accessor .bool s _ => accessor .bool s (negation n)
  | _ => n.noneOf

end Node

end TypedPath
