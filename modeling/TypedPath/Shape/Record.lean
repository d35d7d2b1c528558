import TypedPath.Shape.Basic
import TypedPath.Text.Escaped

/-! Records built with their members checked: every member has a name of its own and a shape. -/
namespace TypedPath.Shape

/-- Why a list of members makes no record. -/
inductive MemberFault
  | unnamed (position : Nat)
  | duplicate (name : String)
  | shapeless (name : String)
  deriving Repr, DecidableEq

def MemberFault.message (record : String) (fault : MemberFault) : String :=
  "record " ++ Text.escaped record ++ ": " ++ match fault with
    | unnamed i => "member " ++ toString i ++ " has no name"
    | duplicate name => "duplicate member " ++ Text.escaped name
    | shapeless name => "member " ++ Text.escaped name ++ " has no shape"

/-- The first fault of the members from `position` on, where `seen` are the names before. -/
def memberFault? (position : Nat) (seen : List String) : List (Member Shape) → Option MemberFault
  | [] => none
  | m :: rest =>
    if m.name = "" then some (.unnamed position)
    else if m.name ∈ seen then some (.duplicate m.name)
    else match m.shape with
      | absent => some (.shapeless m.name)
      | _ => memberFault? (position + 1) (m.name :: seen) rest

def newRecord (name : String) (members : List (Member Shape)) : Except MemberFault Shape :=
  match memberFault? 0 [] members with
  | some fault => .error fault
  | none => .ok (record name members)

end TypedPath.Shape
