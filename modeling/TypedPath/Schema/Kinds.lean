/-! Kinds of values that a schema tells apart, and sets of them. -/
namespace TypedPath.Schema

inductive BasicKind
  | null
  | bool
  | integer
  | float
  | string
  | bytes
  | function
  | list
  | struct
  deriving Repr, DecidableEq

namespace BasicKind

/-- All kinds, in the order in which sets list them. -/
def all : List BasicKind :=
  [null, bool, integer, float, string, bytes, function, list, struct]

def name : BasicKind → String
  | null => "null"
  | bool => "bool"
  | integer => "int"
  | float => "float"
  | string => "string"
  | bytes => "bytes"
  | function => "func"
  | list => "list"
  | struct => "struct"

end BasicKind

/-- A set of kinds. Sets with the same members are equal, since each is listed in one fixed order.
-/
structure Kinds where
  members : List BasicKind
  deriving Repr, DecidableEq

namespace Kinds

def ofPredicate (p : BasicKind → Bool) : Kinds := ⟨BasicKind.all.filter p⟩

def contains (s : Kinds) (k : BasicKind) : Bool := s.members.contains k

def empty : Kinds := ⟨[]⟩

/-- Every kind: the value may be anything. -/
def all : Kinds := ⟨BasicKind.all⟩

def only (k : BasicKind) : Kinds := ⟨[k]⟩

def number : Kinds := ⟨[.integer, .float]⟩

def union (s t : Kinds) : Kinds := ofPredicate fun k => s.contains k || t.contains k

def inter (s t : Kinds) : Kinds := ofPredicate fun k => s.contains k && t.contains k

def without (s : Kinds) (k : BasicKind) : Kinds := ofPredicate fun l => s.contains l && l != k

def isEmpty (s : Kinds) : Bool := s.members.isEmpty

/-- A value may be null beside something else. -/
def isNullable (s : Kinds) : Bool := s != only .null && s != all && s.contains .null

/-- The kinds apart from null, unless null or anything at all is what is meant. -/
def apartFromNull (s : Kinds) : Kinds :=
  if s = only .null ∨ s = all then s else s.without .null

/-- Integers and floats together are written as numbers, behind the other kinds. -/
def names (s : Kinds) : List String :=
  if s.contains .integer && s.contains .float then
    ((s.without .integer).without .float).members.map (·.name) ++ ["number"]
  else s.members.map (·.name)

def text (s : Kinds) : String :=
  if s = all then "_"
  else match s.names with
    | [] => "_|_"
    | [name] => name
    | names => "(" ++ "|".intercalate names ++ ")"

end Kinds

end TypedPath.Schema
