import TypedPath.Node.Basic
import TypedPath.Text.Escaped

/-! What can be wrong with an expression, and how it is reported. -/
namespace TypedPath

/-- The classes that errors fall into. -/
inductive Sentinel
  | invalidDocument
  | typeMismatch
  | invalidKey
  | invalidExpression
  | unsupportedShape
  deriving Repr, DecidableEq

def Sentinel.message : Sentinel → String
  | invalidDocument => "invalid query document"
  | typeMismatch => "type mismatch"
  | invalidKey => "invalid key"
  | invalidExpression => "invalid expression"
  | unsupportedShape => "unsupported shape kind"

/-- What is wrong with a node, its children left aside. -/
inductive Problem
  | emptyIdentifier
  | emptyFieldName
  | negativeIndex (index : Int)
  | emptyMapKey
  | unknownOperator (operator : String)
  | notComparable (shape : Shape)
  | familiesDiffer (left : Family) (operator : String) (right : Family)
  | orderingOf (operator : String) (family : Family)
  | noOperands
  | notBoolean (shape : Shape)
  | emptyPattern
  | matchOf (family : Family)
  | filterOfShapeless
  | filterOf (shape : Shape)
  | noExpression
  deriving Repr

namespace Problem

def sentinel : Problem → Sentinel
  | emptyFieldName | negativeIndex _ | emptyMapKey => .invalidKey
  | notComparable _ | familiesDiffer .. | orderingOf .. | notBoolean _ | matchOf _ | filterOf _ =>
    .typeMismatch
  | emptyIdentifier | unknownOperator _ | noOperands | emptyPattern | filterOfShapeless
  | noExpression => .invalidExpression

def detail : Problem → String
  | emptyIdentifier => "empty identifier"
  | emptyFieldName => "empty field name"
  | negativeIndex i => "negative index " ++ toString i
  | emptyMapKey => "empty map key"
  | unknownOperator op => "unknown operator " ++ Text.escaped op
  | notComparable s => s.text ++ " is not comparable"
  | familiesDiffer l op r => l.text ++ " " ++ op ++ " " ++ r.text
  | orderingOf op f => "operator " ++ op ++ " needs numeric operands, got " ++ f.text
  | noOperands => "no operands"
  | notBoolean s => "operand must be boolean, got " ++ s.text
  | emptyPattern => "empty pattern"
  | matchOf f => "match needs a string operand, got " ++ f.text
  | filterOfShapeless => "filter parent has no shape"
  | filterOf s => "cannot filter " ++ s.text
  | noExpression => "accessor has no expression"

end Problem

inductive Violation
  | missing
  | inNode (kind : NodeKind) (problem : Problem)
  deriving Repr

namespace Violation

def sentinel : Violation → Sentinel
  | missing => .invalidExpression
  | inNode _ p => p.sentinel

def message : Violation → String
  | missing => Sentinel.invalidExpression.message ++ ": nil node"
  | inNode k p => k.name ++ ": " ++ p.sentinel.message ++ ": " ++ p.detail

end Violation

end TypedPath
