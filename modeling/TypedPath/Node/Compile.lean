import TypedPath.Digest.Uuid
import TypedPath.Node.Check
import TypedPath.Node.Writer
import TypedPath.Text.Quoted

/-! Writes an expression as a path. -/
namespace TypedPath.Node

mutual

/-- Appends the text of an expression. Each operand of a group is followed by a separator, and the
last separator is taken back before the group is closed. -/
def write (w : Writer) : Node → Except Error Writer
  | hole none => .error (.cause (.unsupportedNode none))
  | hole (some .item) => .ok (w.write "@")
  | hole (some _) => .error .fault
  | identifier _ value => .ok (w.write value)
  | field _ parent name => do
    return (← write w parent).write ("[" ++ Text.quote name ++ "]")
  | arrayElement _ parent index => do
    return (← write w parent).write ("[" ++ toString index ++ "]")
  | mapElement _ parent key => do
    return (← write w parent).write ("[" ++ Text.quote key ++ "]")
  | comparison op left right => do
    write ((← write w left).write (" " ++ op ++ " ")) right
  | conjunction operands => do
    return (← writeOperands " && " (w.write "(") operands).pop.1.write ")"
  | disjunction operands => do
    return (← writeOperands " || " (w.write "(") operands).pop.1.write ")"
  | negation operand => do
    return (← write (w.write "(!") operand).write ")"
  | stringMatch operand pattern => do
    return ((← write w operand).write " =~ ").write pattern
  | filter parent condition => do
    return (← write ((← write w parent).write "[?(") condition).write ")]"
  | item _ => .ok (w.write "@")
  | accessor _ _ expression => write w expression

def writeOperands (separator : String) (w : Writer) : List Node → Except Error Writer
  | [] => .ok w
  | n :: rest => do writeOperands separator ((← write w n).separate separator) rest

end

/-- The path of a well-formed expression. -/
def compile (n : Node) : Except Error String :=
  match n.validate with
  | .error e => .error e
  | .ok _ => (write .empty n).map (·.text)

/-- The name space of query identifiers. -/
def querySpace : Uuid := Uuid.urlSpace.ofName "shapepath/query/v1"

/-- The identifier of a path: equal paths have equal identifiers. -/
def queryId (path : String) : String := (querySpace.ofName path).text

end TypedPath.Node
