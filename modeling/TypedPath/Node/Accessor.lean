import TypedPath.Error

/-! Accessors: the typed view of a value, chosen by its shape.

A shape is checked once, to its full depth, before an accessor is made for it; members and items are
reached from the shape that the accessor keeps. -/
namespace TypedPath

namespace Shape

mutual

/-- Fails where no shape was given, at any depth. -/
def check : Shape → Except Error Unit
  | absent => .error (.cause .absentShape)
  | array absent => .error (.cause .arrayWithoutItems)
  | set absent => .error (.cause .setWithoutItems)
  | map absent => .error (.cause .mapWithoutItems)
  | array s | set s => inContext .arrayItem s.check
  | map s => inContext .mapItem s.check
  | record _ ms => checkMembers ms
  | _ => .ok ()

def checkMembers : List (Member Shape) → Except Error Unit
  | [] => .ok ()
  | m :: rest =>
    match checkMember m with
    | .error e => .error e
    | .ok _ => checkMembers rest

def checkMember : Member Shape → Except Error Unit
  | ⟨name, s, _, _⟩ => inContext (.field name) s.check

end

/-- The accessor for a shape, written as `base`. Sets are seen as arrays and timestamps as strings.
-/
def accessor : Shape → Node → Node
  | absent, _ => .hole none
  | string, base | timestamp, base => .accessor .string .string base
  | number, base => .accessor .number .number base
  | integer, base => .accessor .number .integer base
  | bool, base => .accessor .bool .bool base
  | binary, base => .accessor .binary .binary base
  | dynamic tag, base => .accessor .dynamic (.dynamic tag) base
  | nothing, base => .accessor .value .nothing base
  | array s, base | set s, base => .accessor .array (.array s) base
  | map s, base => .accessor .map (.map s) base
  | record name ms, base => .accessor .struct (.record name ms) base

/-- What there is in place of an accessor for a shape that is not complete. An array or a map whose
items are not complete leaves a hole of its own type. -/
def gap : Shape → Node
  | array absent | set absent | map absent => .hole none
  | array _ | set _ => .hole (some (.accessor .array))
  | map _ => .hole (some (.accessor .map))
  | _ => .hole none

/-- The last member of a name. -/
def lastMember? (s : Shape) (name : String) : Option (Member Shape) :=
  s.members.reverse.find? (·.name = name)

end Shape

namespace Node

/-- The token that every path starts from. -/
def root : String := "$"

/-- What a visit of a shape comes to: a node, and beside it the error of a shape that is not
complete. -/
structure Visited where
  node : Node
  error : Option Error

/-- The node counts only if there is no error. -/
def Visited.result (v : Visited) : Except Error Node :=
  match v.error with
  | some e => .error e
  | none => .ok v.node

/-- The accessor for a complete shape, written as `base`. -/
def visit (s : Shape) (base : Node) : Visited :=
  match s.check with
  | .error e => ⟨s.gap, some e⟩
  | .ok _ => ⟨s.accessor base, none⟩

/-- The accessor for a shape, or the error alone. -/
def dispatch (s : Shape) (base : Node) : Except Error Node := (visit s base).result

/-- The accessor for the document root, beside the error of a shape that is not complete. -/
def visitRoot (s : Shape) : Visited := visit s (identifier s root)

/-- The accessor for the document root. -/
def ofShape (s : Shape) : Except Error Node := (visitRoot s).result

/-- A node, if it is of the type `t`. -/
def as (t : NodeType) (n : Node) : Except Error Node :=
  if n.type? = some t then .ok n else .error (.cause (.wrongType t n.type?))

/-- The accessor for the document root, which must be a record. -/
def ofRecord (s : Shape) : Except Error Node :=
  match ofShape s with
  | .error e => .error e
  | .ok n => n.as (.accessor .struct)

/-- The names of a record's members, in the order of their declaration. -/
def names : Node → List String
  | accessor .struct s _ => s.names
  | _ => []

/-- The accessor of a record's member. -/
def member (n : Node) (name : String) : Except Error Node :=
  match n with
  | accessor .struct s _ =>
    match s.lastMember? name with
    | some m => dispatch m.shape (field m.shape n name)
    | none => .error (.cause (.noField s name))
  | _ => .error (.cause (.wrongType (.accessor .struct) n.type?))

/-- The accessor of a record's member, which must be of the type `t`. -/
def memberAs (t : NodeType) (n : Node) (name : String) : Except Error Node :=
  match n with
  | accessor .struct _ _ =>
    match n.member name with
    | .error e => .error e
    | .ok f => inContext (.field name) (f.as t)
  | _ => .error (.cause .noStruct)

/-- The accessor of an array's element. -/
def element (n : Node) (index : Int) : Except Error Node :=
  match n with
  | accessor .array s _ =>
    if index < 0 then .error (.cause (.negativeIndex index))
    else dispatch s.items (arrayElement s.items n index)
  | _ => .error (.cause (.wrongType (.accessor .array) n.type?))

/-- The accessor of the value under a map's key. -/
def entry (n : Node) (key : String) : Except Error Node :=
  match n with
  | accessor .map s _ =>
    if key = "" then .error (.cause .emptyMapKey)
    else dispatch s.items (mapElement s.items n key)
  | _ => .error (.cause (.wrongType (.accessor .map) n.type?))

/-- A dynamic value seen as a value of the shape `s`. -/
def narrow (n : Node) (s : Shape) : Except Error Node :=
  match n with
  | accessor .dynamic _ _ => dispatch s n
  | _ => .error (.cause (.wrongType (.accessor .dynamic) n.type?))

/-- The element of a collection that a filter looks at. -/
def current (n : Node) : Node :=
  match n with
  | accessor .array s _ | accessor .map s _ =>
    match dispatch s.items (item s.items) with
    | .ok i => i
    | .error _ => hole none
  | _ => hole none

/-- A condition on an element: a boolean value, or a hole where there is none. -/
abbrev Condition := Node → Except Error Node

/-- A condition on elements of the type `t`. -/
def itemAs (t : NodeType) (p : Condition) : Condition := fun i =>
  match inContext .item (i.as t) with
  | .error e => .error e
  | .ok i => p i

def condition (n : Node) : Option Condition → Except Error Node
  | none => .error (.cause .noPredicate)
  | some p =>
    match inContext .filter (p n.current) with
    | .error e => .error e
    | .ok c => if c.isHole then .error (.cause .noCondition) else .ok c

/-- A collection narrowed to the elements for which a condition holds. -/
def narrowBy (n : Node) (p : Option Condition) : Except Error Node :=
  match n with
  | accessor .array s _ =>
    match n.condition p with
    | .error e => .error e
    | .ok c =>
      match inContext .arrayItem (dispatch s.items (item s.items)) with
      | .error e => .error e
      | .ok _ => .ok (accessor .array s (filter n c))
  | accessor .map s _ =>
    match n.condition p with
    | .error e => .error e
    | .ok c =>
      match inContext .mapItem (dispatch s.items (item s.items)) with
      | .error e => .error e
      | .ok _ => .ok (accessor .map s (filter n c))
  | _ => .error (.cause (.notFilterable n.type?))

end Node

end TypedPath
