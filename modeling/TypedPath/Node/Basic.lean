import TypedPath.Shape.Basic

/-! Query expressions. A node is a reference into a document, a condition, or a typed accessor that
wraps the expression it is written as. -/
namespace TypedPath

/-- The typed views of a value. -/
inductive Accessor
  | string
  | number
  | bool
  | binary
  | dynamic
  | value
  | struct
  | array
  | map
  deriving Repr, DecidableEq

inductive NodeType
  | accessor (type : Accessor)
  | identifier
  | field
  | arrayElement
  | mapElement
  | comparison
  | conjunction
  | disjunction
  | negation
  | stringMatch
  | filter
  | item
  deriving Repr, DecidableEq

namespace NodeType

def name : NodeType → String
  | accessor .string => "String"
  | accessor .number => "Number"
  | accessor .bool => "Bool"
  | accessor .binary => "Binary"
  | accessor .dynamic => "Dynamic"
  | accessor .value => "Value"
  | accessor .struct => "Struct"
  | accessor .array => "Array"
  | accessor .map => "Map"
  | identifier => "Identifier"
  | field => "Field"
  | arrayElement => "ArrayElement"
  | mapElement => "MapElement"
  | comparison => "Comparison"
  | conjunction => "Conjunction"
  | disjunction => "Disjunction"
  | negation => "Negation"
  | stringMatch => "StringMatch"
  | filter => "Filter"
  | item => "Item"

def all : List NodeType :=
  [accessor .string, accessor .number, accessor .bool, accessor .binary, accessor .dynamic,
    accessor .value, accessor .struct, accessor .array, accessor .map, identifier, field,
    arrayElement, mapElement, comparison, conjunction, disjunction, negation, stringMatch, filter,
    item]

def ofName? (s : String) : Option NodeType := all.find? (·.name = s)

/-- How messages name the type of a node, or of no node at all. -/
def label : Option NodeType → String
  | some t => "*jsonpath." ++ t.name
  | none => "<nil>"

end NodeType

inductive NodeKind
  | identifier
  | fieldAccess
  | arrayElement
  | mapElement
  | comparison
  | and
  | or
  | not
  | stringMatch
  | filter
  | filterItem
  | struct
  | array
  | map
  | value
  deriving Repr, DecidableEq

namespace NodeKind

def all : List NodeKind :=
  [identifier, fieldAccess, arrayElement, mapElement, comparison, and, or, not, stringMatch, filter,
    filterItem, struct, array, map, value]

def name : NodeKind → String
  | identifier => "identifier"
  | fieldAccess => "field-access"
  | arrayElement => "array-element"
  | mapElement => "map-element"
  | comparison => "comparison"
  | and => "and"
  | or => "or"
  | not => "not"
  | stringMatch => "string-match"
  | filter => "filter"
  | filterItem => "filter-item"
  | struct => "struct"
  | array => "array"
  | map => "map"
  | value => "value"

/-- The name of the kind at a place of `all`. -/
def label (i : Int) : String :=
  match if 0 ≤ i then all[i.toNat]? else none with
  | some k => k.name
  | none => "unknown"

end NodeKind

namespace NodeType

def kind : NodeType → NodeKind
  | accessor .struct => .struct
  | accessor .array => .array
  | accessor .map => .map
  | accessor _ => .value
  | identifier => .identifier
  | field => .fieldAccess
  | arrayElement => .arrayElement
  | mapElement => .mapElement
  | comparison => .comparison
  | conjunction => .and
  | disjunction => .or
  | negation => .not
  | stringMatch => .stringMatch
  | filter => .filter
  | item => .filterItem

end NodeType

inductive Operator
  | equals
  | notEquals
  | greater
  | greaterOrEqual
  | less
  | lessOrEqual
  deriving Repr, DecidableEq

namespace Operator

def symbol : Operator → String
  | equals => "=="
  | notEquals => "!="
  | greater => ">"
  | greaterOrEqual => ">="
  | less => "<"
  | lessOrEqual => "<="

def all : List Operator := [equals, notEquals, greater, greaterOrEqual, less, lessOrEqual]

def ofSymbol? (s : String) : Option Operator := all.find? (·.symbol = s)

/-- Whether an operator needs numbers. -/
def isOrdering : Operator → Bool
  | equals | notEquals => false
  | _ => true

end Operator

/-- An expression. A `hole` is a missing node, of a known type or of none. A comparison holds the
text of its operator, which need not be that of an `Operator`. -/
inductive Node
  | hole (type : Option NodeType)
  | identifier (shape : Shape) (value : String)
  | field (shape : Shape) (parent : Node) (name : String)
  | arrayElement (shape : Shape) (parent : Node) (index : Int)
  | mapElement (shape : Shape) (parent : Node) (key : String)
  | comparison (operator : String) (left right : Node)
  | conjunction (operands : List Node)
  | disjunction (operands : List Node)
  | negation (operand : Node)
  | stringMatch (operand : Node) (pattern : String)
  | filter (parent condition : Node)
  | item (shape : Shape)
  | accessor (type : Accessor) (shape : Shape) (expression : Node)
  deriving Repr, Inhabited

namespace Node

def type? : Node → Option NodeType
  | hole t => t
  | identifier .. => some .identifier
  | field .. => some .field
  | arrayElement .. => some .arrayElement
  | mapElement .. => some .mapElement
  | comparison .. => some .comparison
  | conjunction .. => some .conjunction
  | disjunction .. => some .disjunction
  | negation .. => some .negation
  | stringMatch .. => some .stringMatch
  | filter .. => some .filter
  | item .. => some .item
  | accessor t .. => some (.accessor t)

def isHole : Node → Bool
  | hole _ => true
  | _ => false

/-- The shape of a node's value. A filter has the shape of the collection that it narrows. There is
no answer for a hole whose type does not settle it. -/
def shape? : Node → Option Shape
  | hole (some .comparison) | hole (some .conjunction) | hole (some .disjunction)
  | hole (some .negation) | hole (some .stringMatch) => some .bool
  | hole _ => none
  | identifier s _ | field s _ _ | arrayElement s _ _ | mapElement s _ _ | item s
  | accessor _ s _ => some s
  | comparison .. | conjunction .. | disjunction .. | negation .. | stringMatch .. => some .bool
  | filter (hole none) _ => some .absent
  | filter parent _ => parent.shape?

/-- A condition as a boolean value. -/
def truth (condition : Node) : Node := accessor .bool .bool condition

/-- The node of a type with nothing filled in. -/
def zero : NodeType → Node
  | .accessor t => accessor t .absent (hole none)
  | .identifier => identifier .absent ""
  | .field => field .absent (hole none) ""
  | .arrayElement => arrayElement .absent (hole none) 0
  | .mapElement => mapElement .absent (hole none) ""
  | .comparison => comparison "" (hole none) (hole none)
  | .conjunction => conjunction []
  | .disjunction => disjunction []
  | .negation => negation (hole none)
  | .stringMatch => stringMatch (hole none) ""
  | .filter => filter (hole none) (hole none)
  | .item => item .absent

end Node

end TypedPath
