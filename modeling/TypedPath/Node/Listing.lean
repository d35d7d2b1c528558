import TypedPath.Node.Accessor
import TypedPath.Node.Compile

/-! Lists the paths of the members that can be reached through nested records. -/
namespace TypedPath

/-- A member as it can be addressed from the root. -/
structure PathEntry where
  path : String
  shape : Shape
  optional : Bool
  doc : String
  deriving Repr

namespace Node

/-- Lists what lies below the accessor of a shape. -/
abbrev Lister := Node → Except Error (List PathEntry)

/-- Lists the members of a record, each directly before what lies below it. Where a name occurs
twice, its accessor and what lies below it are those of the last member of that name. -/
def listMembers (below : List (String × Lister)) (n : Node) :
    List (Member Shape) → Except Error (List PathEntry)
  | [] => .ok []
  | m :: rest => do
    let f ← n.member m.name
    let path ← inContext (.field m.name) f.compile
    let nested ← ((below.reverse.lookup m.name).getD fun _ => .ok []) f
    let others ← listMembers below n rest
    return ⟨path, m.shape, m.optional, m.doc⟩ :: (nested ++ others)

mutual

def listerOf : Shape → Lister
  | .record _ ms => fun n => listMembers (listersOf ms) n ms
  | _ => fun _ => .ok []

def listersOf : List (Member Shape) → List (String × Lister)
  | [] => []
  | m :: rest => listerOfMember m :: listersOf rest

def listerOfMember : Member Shape → String × Lister
  | ⟨name, shape, _, _⟩ => (name, listerOf shape)

end

/-- The members that can be reached from a record, in the order of their declaration. Anything but a
record has none. -/
def paths (n : Node) : Except Error (List PathEntry) :=
  match n with
  | accessor .struct (.record name ms) _ => listerOf (.record name ms) n
  | accessor .struct _ _ => .error .fault
  | _ => .ok []

end Node

end TypedPath
