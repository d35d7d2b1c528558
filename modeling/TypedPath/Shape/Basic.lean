/-! Shapes: what is known about a value before any document is read. -/
namespace TypedPath

/-- A named part of a record, over the type `σ` of shapes. -/
structure Member (σ : Type) where
  name : String
  shape : σ
  optional : Bool := false
  doc : String := ""
  deriving Repr, BEq

/-- The shape of a value. `absent` stands where no shape was given. -/
inductive Shape
  | absent
  | string
  | number
  | integer
  | bool
  | binary
  | timestamp
  | dynamic (tag : String)
  | nothing
  | array (items : Shape)
  | set (items : Shape)
  | map (items : Shape)
  | record (name : String) (members : List (Member Shape))
  deriving Repr, BEq, Inhabited

namespace Shape

/-- The two tags of dynamic values in a schema. Any other tag is kept as it is. -/
def any : Shape := dynamic "any"
def unknown : Shape := dynamic "unknown"

mutual

/-- How a shape is written in messages. A record with a name is written as that name. -/
def text : Shape → String
  | absent => "<nil>"
  | string => "string"
  | number => "number"
  | integer => "integer"
  | bool => "bool"
  | binary => "binary"
  | timestamp => "timestamp"
  | dynamic tag => tag
  | nothing => "nothing"
  | array items => "array<" ++ items.text ++ ">"
  | set items => "set<" ++ items.text ++ ">"
  | map items => "map<" ++ items.text ++ ">"
  | record name members =>
    if name = "" then "\x7b" ++ ", ".intercalate (memberTexts members) ++ "\x7d" else name

def memberTexts : List (Member Shape) → List String
  | [] => []
  | m :: rest => memberText m :: memberTexts rest

def memberText : Member Shape → String
  | ⟨name, shape, _, _⟩ => name ++ ": " ++ shape.text

end

inductive Kind
  | invalid
  | string
  | number
  | integer
  | bool
  | binary
  | timestamp
  | dynamic
  | nothing
  | array
  | set
  | map
  | record
  deriving Repr, DecidableEq

namespace Kind

def all : List Kind :=
  [invalid, string, number, integer, bool, binary, timestamp, dynamic, nothing, array, set, map,
    record]

def name : Kind → String
  | invalid => "invalidShape"
  | string => "stringShape"
  | number => "numberShape"
  | integer => "integerShape"
  | bool => "boolShape"
  | binary => "binaryShape"
  | timestamp => "timestampShape"
  | dynamic => "dynamicShape"
  | nothing => "nothingShape"
  | array => "arrayShape"
  | set => "setShape"
  | map => "mapShape"
  | record => "recordShape"

/-- The name of the kind at a place of `all`. -/
def label (i : Int) : String :=
  match if 0 ≤ i then all[i.toNat]? else none with
  | some k => k.name
  | none => "Kind(" ++ toString i ++ ")"

end Kind

def kind : Shape → Kind
  | absent => .invalid
  | string => .string
  | number => .number
  | integer => .integer
  | bool => .bool
  | binary => .binary
  | timestamp => .timestamp
  | dynamic _ => .dynamic
  | nothing => .nothing
  | array _ => .array
  | set _ => .set
  | map _ => .map
  | record _ _ => .record

/-- The item shape of a collection. -/
def items : Shape → Shape
  | array s | set s | map s => s
  | _ => absent

def members : Shape → List (Member Shape)
  | record _ ms => ms
  | _ => []

/-- Member names in the order of their declaration. -/
def names (s : Shape) : List String := s.members.map (·.name)

/-- The first member of a name. -/
def member? (s : Shape) (name : String) : Option (Member Shape) :=
  s.members.find? (·.name = name)

end Shape

/-- Values of one family can be compared with each other. -/
inductive Family
  | string
  | numeric
  | bool
  | other
  deriving Repr, DecidableEq

namespace Family

def text : Family → String
  | string => "string"
  | numeric => "numeric"
  | bool => "bool"
  | other => "other"

end Family

/-- Timestamps compare as strings. -/
def Shape.family : Shape → Family
  | .string | .timestamp => .string
  | .number | .integer => .numeric
  | .bool => .bool
  | _ => .other

end TypedPath
